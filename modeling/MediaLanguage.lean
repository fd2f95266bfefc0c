import MediaLanguage.Main
import MediaLanguage.Model.Document
import MediaLanguage.Console.Picture
import MediaLanguage.Proofs.Position
import MediaLanguage.Proofs.Token.Layout
import MediaLanguage.Proofs.Token.Boundary
import MediaLanguage.Proofs.Token.Relex
import MediaLanguage.Proofs.Token.Joint
import MediaLanguage.Proofs.Ast.View
import MediaLanguage.Proofs.Parser.Progress
import MediaLanguage.Proofs.Parser.Pairing
import MediaLanguage.Proofs.Parser.Steps
import MediaLanguage.Proofs.Parser.Expr
import MediaLanguage.Proofs.Parser.Block
import MediaLanguage.Proofs.Parser.Event
import MediaLanguage.Proofs.Parser.Market
import MediaLanguage.Proofs.Parser.Outlet
import MediaLanguage.Proofs.Parser.Concat
import MediaLanguage.Proofs.Validation.Order
import MediaLanguage.Proofs.Model.Closed
import MediaLanguage.Proofs.Ast.Leaves
import MediaLanguage.Proofs.Parser.Braces
import MediaLanguage.Proofs.Parser.Reading
import MediaLanguage.Proofs.Parser.Provenance
import MediaLanguage.Proofs.Parser.Balance
import MediaLanguage.Proofs.Token.Leaves
import MediaLanguage.Proofs.Model.Integers
import MediaLanguage.Proofs.Outcome
import MediaLanguage.Proofs.Text.Lexis
import MediaLanguage.Proofs.Text.Plain
import MediaLanguage.Proofs.Ast.Outline
import MediaLanguage.Proofs.Model.Outline
import MediaLanguage.Proofs.Model.Remark
import MediaLanguage.Proofs.Sql.Outline
import MediaLanguage.Proofs.Sql.Script
import MediaLanguage.Proofs.Sql.Soundness
import MediaLanguage.Proofs.Graph.Outline
import MediaLanguage.Proofs.Graph.Script
import MediaLanguage.Proofs.Graph.Soundness
import MediaLanguage.Proofs.Injection
import MediaLanguage.Proofs.Sql.Reader
import MediaLanguage.Proofs.Sql.Record
import MediaLanguage.Proofs.Model.Identity
import MediaLanguage.Proofs.Identity
import MediaLanguage.Proofs.Model.Links
import MediaLanguage.Proofs.Token.Order
import MediaLanguage.Proofs.Token.Respelling
import MediaLanguage.Proofs.Ast.Relocate
import MediaLanguage.Proofs.Ast.Tree
import MediaLanguage.Proofs.Model.Relocate
import MediaLanguage.Proofs.Validation.Relocate
import MediaLanguage.Proofs.Parser.Rounds
import MediaLanguage.Proofs.Parser.Taking
import MediaLanguage.Proofs.Parser.Calls
import MediaLanguage.Proofs.Parser.Spans
import MediaLanguage.Proofs.Parser.Places
import MediaLanguage.Proofs.Parser.Whole
import MediaLanguage.Proofs.Parser.Labels
import MediaLanguage.Proofs.Layout
import MediaLanguage.Proofs.Spelling
import MediaLanguage.Proofs.Ast.Strip
import MediaLanguage.Proofs.Model.Strip
import MediaLanguage.Proofs.Validation.Strip
import MediaLanguage.Proofs.Validation.Raised
import MediaLanguage.Proofs.Validation.Session
import MediaLanguage.Proofs.Sql.Lookup
import MediaLanguage.Proofs.Naming
import MediaLanguage.Proofs.Parser.Insertion
import MediaLanguage.Proofs.Parser.Bodies
import MediaLanguage.Proofs.Parser.Uncommented
import MediaLanguage.Proofs.Parser.Commented
import MediaLanguage.Proofs.Trailing
import MediaLanguage.Proofs.Sql.Execution
import MediaLanguage.Proofs.Anmi.Figures
import MediaLanguage.Proofs.Anmi.Repetition
import MediaLanguage.Proofs.Text.Lines
import MediaLanguage.Proofs.Path
import MediaLanguage.Proofs.Command.Session
import MediaLanguage.Proofs.Command.Artifacts
import MediaLanguage.Proofs.Graph.Execution
import MediaLanguage.Proofs.Graph.Parts
import MediaLanguage.Proofs.Graph.Deeds
import MediaLanguage.Proofs.Graph.Ownership
import MediaLanguage.Proofs.Parser.Derivation
import MediaLanguage.Proofs.Parser.Foresight
import MediaLanguage.Proofs.Parser.Located
import MediaLanguage.Proofs.Parser.Recovery
import MediaLanguage.Proofs.Command.Emission
import MediaLanguage.Proofs.Token.Literal
import MediaLanguage.Proofs.Token.Fault
import MediaLanguage.Proofs.Model.Gathering
import MediaLanguage.Proofs.Parser.Skipping
import MediaLanguage.Proofs.Parser.Sites
import MediaLanguage.Proofs.Parser.Descent
import MediaLanguage.Proofs.Parser.Opaque
import MediaLanguage.Proofs.Occurrence
import MediaLanguage.Proofs.Anmi.Sources
import MediaLanguage.Proofs.Validation.Collect
import MediaLanguage.Proofs.Validation.Duplicates
import MediaLanguage.Proofs.Text.Quoting
import MediaLanguage.Proofs.Vocabulary
import MediaLanguage.Proofs.Number.Digits
import MediaLanguage.Proofs.Number.Written
import MediaLanguage.Proofs.Aggregation
import MediaLanguage.Proofs.Text.Literal
import MediaLanguage.Proofs.Report.Csv
import MediaLanguage.Proofs.Report.Styled
import MediaLanguage.Proofs.Context

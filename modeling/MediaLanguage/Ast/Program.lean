import MediaLanguage.Ast.Declaration
import MediaLanguage.Ast.Event
import MediaLanguage.Ast.Outlet

/-!
# Programs

A program is its statements, in the order of the source.
-/

namespace MediaLanguage.Ast

/-- A declaration at the top level of a program. -/
inductive Statement where
  | importFile (d : Import)
  | letVariable (d : Variable)
  | unit (d : UnitDeclaration)
  | vocabulary (d : Vocabulary)
  | template (d : Template)
  | family (d : Family)
  | data (d : Data)
  | link (d : Link)
  | event (d : Event)
  | catalog (d : Catalog)
  | comment (d : Comment)

/-- The place of a link. -/
def Link.position : Link → Position
  | .diachronic l => l.position
  | .synchronous l => l.position

/-- The name of a link. -/
def Link.name : Link → String
  | .diachronic l => l.name
  | .synchronous l => l.name

namespace Statement

/-- What a statement declares, in one word. -/
def kind : Statement → String
  | .importFile _ => "import"
  | .letVariable _ => "variable"
  | .unit _ => "unit"
  | .vocabulary _ => "vocabulary"
  | .template _ => "template"
  | .family _ => "family"
  | .data _ => "data"
  | .link (.diachronic _) => "diachronic_link"
  | .link (.synchronous _) => "synchronous_link"
  | .event _ => "event"
  | .catalog _ => "catalog"
  | .comment _ => "comment"

/-- The place of a statement. -/
def position : Statement → Position
  | .importFile d => d.position
  | .letVariable d => d.position
  | .unit d => d.position
  | .vocabulary d => d.position
  | .template d => d.position
  | .family d => d.position
  | .data d => d.position
  | .link d => d.position
  | .event d => d.position
  | .catalog d => d.position
  | .comment d => d.position

end Statement

/-- A program. -/
structure Program where
  statements : List Statement

namespace Program

/-- The statements of a kind. -/
def ofKind (p : Program) (kind : String) : List Statement :=
  p.statements.filter fun s => s.kind == kind

/-- The families of a program. -/
def families (p : Program) : List Family :=
  p.statements.filterMap fun
    | .family f => some f
    | _ => none

/-- The outlets of a program, family by family. -/
def outlets (p : Program) : List Outlet :=
  p.families.flatMap Family.outlets

end Program

end MediaLanguage.Ast

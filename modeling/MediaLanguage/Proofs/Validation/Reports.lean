import MediaLanguage.Proofs.Occurrence
import MediaLanguage.Validation.Validator

/-!
# What a validation reports

What a program declares, and the issues that the rules find, are written down here without the state of a validation:
as lists over the declarations and over the parts of the program, where the path names the declarations around the one
at hand, outermost first. `Proofs.Validation.Step` shows that the steps of a validation report this.
-/

namespace MediaLanguage

/-! ## Building issues -/

namespace ContextPath

/-- An issue at a place below this path. -/
def issue (path : ContextPath) (severity : Severity) (code message : String) (position : Position)
    (suggestion : String) : Issue :=
  ⟨severity, code, message, position, some suggestion, contextText path⟩

/-- An error below this path. -/
def error (path : ContextPath) (code message : String) (position : Position) (suggestion : String) : Issue :=
  path.issue .error code message position suggestion

/-- A warning below this path. -/
def warning (path : ContextPath) (code message : String) (position : Position) (suggestion : String) : Issue :=
  path.issue .warning code message position suggestion

/-- A remark below this path. -/
def info (path : ContextPath) (code message : String) (position : Position) (suggestion : String) : Issue :=
  path.issue .info code message position suggestion

end ContextPath

/-- The issue, if the rule is broken. -/
def Issue.when (i : Issue) (broken : Bool) : List Issue :=
  if broken then [i] else []

namespace Ast

/-! ## Imports and variables -/

/-- The issues of imports. -/
def Import.check (path : ContextPath) (d : Import) : List Issue :=
  let here : ContextPath := path ++ [s!"Import({d.path})"]
  (here.warning "IMPORT_NO_EXTENSION" s!"Import path '{d.path}' should end with '{fileExtension}'" d.position
      s!"Add '{fileExtension}' extension to import path").when (!fileExtension.toList.isSuffixOf d.path.toList)
    ++ (here.info "IMPORT_RELATIVE_PATH" s!"Import uses relative path: '{d.path}'" d.position
      "Consider using absolute paths for better maintainability").when (occursIn ['.', '.'] d.path.toList)

/-- The issues of variables. -/
def Variable.check (path : ContextPath) (d : Variable) : List Issue :=
  let here : ContextPath := path ++ [s!"Variable({d.name})"]
  (here.warning "VAR_NAMING" s!"Variable name '{d.name}' contains non-alphanumeric characters" d.position
      "Use only letters, numbers, and underscores in variable names").when
    (!d.name.toList.all fun c => c == '_' || Text.isAlphanumeric c)

/-! ## Units -/

/-- The issues of the type of a column. -/
def UnitField.check (path : ContextPath) (f : UnitField) : List Issue :=
  let here : ContextPath := path ++ [s!"Field({f.name})"]
  match f.type.type with
  | .text (some length) =>
    (here.error "FIELD_TEXT_ZERO_LENGTH" s!"TEXT field '{f.name}' has zero length" f.position
        "Specify a positive length for TEXT fields").when (length == 0)
      ++ (here.warning "FIELD_TEXT_LARGE" s!"TEXT field '{f.name}' has very large length ({length})" f.position
        "Consider using a smaller length or different field type").when (largeTextLength < length)
  | .category values =>
    (here.error "FIELD_CATEGORY_EMPTY" s!"CATEGORY field '{f.name}' has no values" f.position
        "Add at least one value to CATEGORY field").when values.isEmpty
      ++ (repeats id values).map fun value =>
        here.error "FIELD_CATEGORY_DUPLICATE" s!"CATEGORY field '{f.name}' has duplicate value '{value}'" f.position
          "Remove duplicate values from CATEGORY field"
  | _ => []

/-- The issues of units. -/
def UnitDeclaration.check (path : ContextPath) (u : UnitDeclaration) : List Issue :=
  let here : ContextPath := path ++ [s!"Unit({u.name})"]
  (here.error "UNIT_EMPTY" s!"Unit '{u.name}' has no fields" u.position "Add field declarations to unit").when
      u.fields.isEmpty
    ++ (here.warning "UNIT_NO_PRIMARY_KEY" s!"Unit '{u.name}' has no primary key" u.position
      "Consider adding a PRIMARY KEY field").when (!u.fields.any UnitField.primaryKey)
    ++ (markRepeats UnitField.name [] u.fields).flatMap fun (f, repeated) =>
      (here.error "UNIT_FIELD_DUPLICATE" s!"Field '{f.name}' is declared multiple times in unit '{u.name}'" f.position
        "Remove duplicate field declaration").when repeated ++ f.check here

/-! ## Vocabularies -/

/-- The issues of the bodies of vocabularies. -/
def VocabularyBody.check (path : ContextPath) (b : VocabularyBody) : List Issue :=
  let here : ContextPath := path ++ [s!"VocabBody({b.name})"]
  (here.warning "VOCAB_BODY_EMPTY" s!"Vocabulary body '{b.name}' has no entries" b.position
      "Add vocabulary entries").when b.entries.isEmpty
    ++ (repeats (fun e : VocabularyEntry => e.key.text) b.entries).map fun e =>
      let key := e.key.text
      here.error "VOCAB_DUPLICATE_KEY" s!"Vocabulary body '{b.name}' has duplicate key '{key}'" e.position
        "Remove duplicate key or use different key"

/-- The issues of vocabularies. -/
def Vocabulary.check (path : ContextPath) (v : Vocabulary) : List Issue :=
  let here : ContextPath := path ++ [s!"Vocabulary({v.name})"]
  (here.error "VOCAB_EMPTY" s!"Vocabulary '{v.name}' has no bodies" v.position "Add at least one vocabulary body").when
      v.bodies.isEmpty
    ++ v.bodies.flatMap (VocabularyBody.check here)

/-! ## Blocks -/

/-- The issues of the identity of an outlet, which all its identity blocks give together. -/
def checkIdentity (path : ContextPath) : List Identity → List Issue
  | [] => []
  | first :: others =>
    let here : ContextPath := path ++ ["Identity"]
    let names := (first :: others).flatMap Identity.names
    (here.error "IDENTITY_NO_ID" "Identity block missing required 'id' field" first.position
        "Add 'id = <number>' to identity block").when (!names.contains "id")
      ++ (here.warning "IDENTITY_NO_TITLE" "Identity block missing 'title' field" first.position
        "Add 'title = \"<name>\"' to identity block").when (!names.contains "title")

/-- The issues of lifecycles. -/
def Lifecycle.check (path : ContextPath) (b : Lifecycle) : List Issue :=
  let here : ContextPath := path ++ ["Lifecycle"]
  (here.warning "LIFECYCLE_EMPTY" "Lifecycle block has no entries" b.position "Add lifecycle status entries").when
      b.entries.isEmpty
    ++ (repeats LifecycleEntry.status b.entries).map fun e =>
      here.warning "LIFECYCLE_DUPLICATE_STATUS" s!"Duplicate lifecycle status '{e.status}'" e.position
        "Each status should appear only once"

/-- The issues of characteristics. -/
def FieldBlock.checkCharacteristics (path : ContextPath) (b : FieldBlock) : List Issue :=
  let here : ContextPath := path ++ ["Characteristics"]
  (here.warning "CHARACTERISTICS_EMPTY" "Characteristics block has no fields" b.position
      "Add characteristic assignments").when b.assignments.isEmpty
    ++ (repeats Assignment.name b.assignments).map fun a =>
      here.warning "CHARACTERISTICS_DUPLICATE" s!"Duplicate characteristic '{a.name}'" a.position
        "Remove duplicate characteristic"

/-- The issues of metadata. -/
def FieldBlock.checkMetadata (path : ContextPath) (b : FieldBlock) : List Issue :=
  let here : ContextPath := path ++ ["Metadata"]
  (here.info "METADATA_EMPTY" "Metadata block has no fields" b.position "Add metadata assignments").when
    b.assignments.isEmpty

/-- The issues of a block other than the identity. -/
def Block.check (path : ContextPath) : Block → List Issue
  | .lifecycle b => b.check path
  | .characteristics b => b.checkCharacteristics path
  | .metadata b => b.checkMetadata path
  | .identity _ | .comment _ => []

/-- The issues of the blocks of an outlet or template. -/
def checkBlocks (path : ContextPath) (blocks : List Block) : List Issue :=
  checkIdentity path (identities blocks) ++ blocks.flatMap (Block.check path)

/-! ## Templates and outlets -/

/-- The issues of templates. -/
def Template.check (path : ContextPath) (t : Template) : List Issue :=
  let here : ContextPath := path ++ [s!"Template({t.name})"]
  (here.warning "TEMPLATE_EMPTY" s!"Template '{t.name}' has no blocks" t.position
      "Add characteristics or metadata blocks to make template useful").when t.blocks.isEmpty
    ++ checkBlocks here t.blocks

/-- The issues of outlets. -/
def Outlet.check (path : ContextPath) (o : Outlet) : List Issue :=
  let here : ContextPath := path ++ [s!"Outlet({o.name})"]
  (here.error "OUTLET_NO_IDENTITY" s!"Outlet '{o.name}' has no identity block" o.position
      "Add an identity block with required fields").when (identities o.blocks).isEmpty
    ++ (here.warning "OUTLET_NO_CHARACTERISTICS" s!"Outlet '{o.name}' has no characteristics block" o.position
      "Consider adding characteristics to describe the outlet").when (!o.blocks.any Block.isCharacteristics)
    ++ checkBlocks here o.blocks

/-! ## Data and links -/

/-- The issues of data. -/
def Data.check (symbols : Symbols) (path : ContextPath) (d : Data) : List Issue :=
  let target := d.target.text
  let here : ContextPath := path ++ [s!"Data({target})"]
  (here.error "DATA_OUTLET_NOT_FOUND" s!"Data declaration references non-existent outlet ID {target}" d.position
      "Declare the outlet before adding data").when (!symbols.declares (.outlet d.target.integerPart))
    ++ (here.warning "DATA_EMPTY" s!"Data declaration for outlet {target} has no blocks" d.position
      "Add data blocks (aggregation, years, etc.)").when (d.blocks.all DataBlock.isComment)

/-- The issues of diachronic links. -/
def DiachronicLink.check (symbols : Symbols) (path : ContextPath) (l : DiachronicLink) : List Issue :=
  let here : ContextPath := path ++ [s!"DiachronicRel({l.name})"]
  let predecessor := l.predecessor.map Number.integerPart
  let successor := l.successor.map Number.integerPart
  (predecessor.toList.flatMap fun id =>
      (here.error "RELATIONSHIP_PREDECESSOR_NOT_FOUND" s!"Predecessor outlet {id} not found" l.position
        "Declare the predecessor outlet before referencing it").when (!symbols.declares (.outlet id)))
    ++ (successor.toList.flatMap fun id =>
      (here.error "RELATIONSHIP_SUCCESSOR_NOT_FOUND" s!"Successor outlet {id} not found" l.position
        "Declare the successor outlet before referencing it").when (!symbols.declares (.outlet id)))
    ++ (here.warning "RELATIONSHIP_SELF_REFERENCE"
      "Diachronic relationship references the same outlet as both predecessor and successor" l.position
      "Verify this self-relationship is intentional").when (predecessor.isSome && predecessor == successor)

/-- The issues of synchronous links. -/
def SynchronousLink.check (symbols : Symbols) (path : ContextPath) (l : SynchronousLink) : List Issue :=
  let here : ContextPath := path ++ [s!"SynchronousRel({l.name})"]
  let first := l.first.map fun s => s.outlet.integerPart
  let second := l.second.map fun s => s.outlet.integerPart
  (first.toList.flatMap fun id =>
      (here.error "RELATIONSHIP_OUTLET1_NOT_FOUND" s!"Outlet 1 with ID {id} not found" l.position
        "Declare the outlet before referencing it").when (!symbols.declares (.outlet id)))
    ++ (second.toList.flatMap fun id =>
      (here.error "RELATIONSHIP_OUTLET2_NOT_FOUND" s!"Outlet 2 with ID {id} not found" l.position
        "Declare the outlet before referencing it").when (!symbols.declares (.outlet id)))
    ++ (here.warning "RELATIONSHIP_SELF_REFERENCE" "Synchronous relationship references the same outlet twice"
      l.position "Verify this self-relationship is intentional").when (first.isSome && first == second)

/-- The issues of links. -/
def Link.check (symbols : Symbols) (path : ContextPath) : Link → List Issue
  | .diachronic l => l.check symbols path
  | .synchronous l => l.check symbols path

/-! ## Families and statements -/

/-- The issues of a member of a family. -/
def FamilyMember.check (symbols : Symbols) (path : ContextPath) : FamilyMember → List Issue
  | .outlet o => o.check path
  | .link l => l.check symbols path
  | .data d => d.check symbols path
  | .reference _ | .comment _ => []

/-- The issues of families. -/
def Family.check (symbols : Symbols) (path : ContextPath) (f : Family) : List Issue :=
  let here : ContextPath := path ++ [s!"Family({f.name})"]
  let outlets := f.outlets.length
  let links := f.links.length
  (here.warning "FAMILY_EMPTY" s!"Family '{f.name}' has no members" f.position
      "Add outlets, relationships, or data declarations").when f.members.isEmpty
    ++ f.members.flatMap (FamilyMember.check symbols here)
    ++ (here.warning "FAMILY_NO_OUTLETS" s!"Family '{f.name}' has no outlets" f.position
      "Add outlet declarations to family").when (outlets == 0)
    ++ (here.warning "FAMILY_SINGLE_OUTLET_RELATIONSHIPS"
      s!"Family '{f.name}' has only {outlets} outlet(s) but {links} relationships" f.position
      "Relationships typically require multiple outlets").when (decide (outlets ≤ 1) && decide (0 < links))

/-- The issues of a statement. -/
def Statement.check (symbols : Symbols) (path : ContextPath) : Statement → List Issue
  | .importFile d => d.check path
  | .letVariable d => d.check path
  | .template d => d.check path
  | .unit d => d.check path
  | .vocabulary d => d.check path
  | .family d => d.check symbols path
  | .data d => d.check symbols path
  | .link d => d.check symbols path
  | .event _ | .catalog _ | .comment _ => []

/-! ## References -/

/-- The issue of an outlet that takes over something that is not declared. -/
def Outlet.checkInheritance (symbols : Symbols) (path : ContextPath) (o : Outlet) : List Issue :=
  let here : ContextPath := path ++ [s!"Outlet({o.name})"]
  match o.inheritance with
  | none => []
  | some (.template name position) =>
    (here.error "TEMPLATE_NOT_FOUND" s!"Template '{name}' not found" position
      "Declare the template before using it").when (!symbols.declares (.template name))
  | some (.outlet id position) =>
    let number := id.text
    (here.error "OUTLET_NOT_FOUND" s!"Outlet with ID {number} not found" position
      "Declare the base outlet before referencing it").when (!symbols.declares (.outlet id.integerPart))

/-- The issues of the outlets of a family that take over something that is not declared. -/
def Family.checkInheritance (symbols : Symbols) (path : ContextPath) (f : Family) : List Issue :=
  f.outlets.flatMap (Outlet.checkInheritance symbols (path ++ [s!"Family({f.name})"]))

/-- The issue of a variable that is not declared. -/
def checkUse (symbols : Symbols) (path : ContextPath) (use : String × Position) : List Issue :=
  let name := use.1
  (path.error "VARIABLE_NOT_FOUND" s!"Variable '{name}' not found" use.2
    "Declare the variable before using it").when (!symbols.declares (.letVariable name))

/-- The issues of the references of a program. -/
def Program.checkReferences (symbols : Symbols) (path : ContextPath) (p : Program) : List Issue :=
  let here : ContextPath := path ++ ["References"]
  p.families.flatMap (Family.checkInheritance symbols here) ++ p.variableUses.flatMap (checkUse symbols here)

/-! ## Declarations -/

/-- What an outlet declares: its number, if it has one. -/
def Outlet.declarations (o : Outlet) : List (Symbol × Position) :=
  (o.declaredId?.map fun id => (Symbol.outlet id, o.position)).toList

/-- What a statement declares. -/
def Statement.declarations : Statement → List (Symbol × Position)
  | .importFile d => [(.importFile d.path, d.position)]
  | .letVariable d => [(.letVariable d.name, d.position)]
  | .template d => [(.template d.name, d.position)]
  | .unit d => [(.unit d.name, d.position)]
  | .vocabulary d => [(.vocabulary d.name, d.position)]
  | .family d => (.family d.name, d.position) :: d.outlets.flatMap Outlet.declarations
  | _ => []

/-- What a program declares. -/
def Program.declarations (p : Program) : List (Symbol × Position) :=
  p.statements.flatMap Statement.declarations

end Ast

/-- The issue that a symbol is declared again. -/
def redeclared (path : List String) (symbol : Symbol) (position earlier : Position) : Issue where
  severity := .error
  code := symbol.redeclaration.1
  message := symbol.redeclaration.2
  position
  suggestion := some (symbol.previously earlier)
  context := contextText path

/-- The table after some declarations, and the issues that they raise. -/
def Symbols.collect (path : List String) (s : Symbols) : List (Symbol × Position) → Symbols × List Issue
  | [] => (s, [])
  | (symbol, position) :: declarations =>
    let issue := (s.find? symbol).map (redeclared path symbol position)
    let (t, issues) := Symbols.collect path (s.insert symbol position) declarations
    (t, issue.toList ++ issues)

end MediaLanguage

import MediaLanguage.Text.Alphanumeric
import MediaLanguage.Validation.State

/-!
# Rules for single declarations

Each step looks at one declaration in the context of those around it. It enters the declaration, adds the issues that
its rules find there, goes through the parts, and leaves the declaration as the context was before.
-/

namespace MediaLanguage

open Validation

/-- Each element with whether its key is the key of an earlier element; `seen` are keys of elements in front. -/
def markRepeats {α κ : Type} [BEq κ] (key : α → κ) (seen : List κ) : List α → List (α × Bool)
  | [] => []
  | x :: xs => (x, seen.contains (key x)) :: markRepeats key (key x :: seen) xs

/-- A step for each element, which is told whether the key of the element is the key of an earlier one. -/
def scan {α κ : Type} [BEq κ] (key : α → κ) (xs : List α) (step : α → Bool → Validation Unit) : Validation Unit :=
  (markRepeats key [] xs).forM fun x => step x.1 x.2

namespace Ast

/-! ## Imports and variables -/

/-- The ending of the files of the language. -/
def fileExtension : String := ".mdsl"

/-- Rules for imports. -/
def Import.validate (d : Import) : Validation Unit := do
  push s!"Import({d.path})"
  when (!fileExtension.toList.isSuffixOf d.path.toList) do
    addWarning "IMPORT_NO_EXTENSION" s!"Import path '{d.path}' should end with '{fileExtension}'" d.position
      s!"Add '{fileExtension}' extension to import path"
  when (occursIn ['.', '.'] d.path.toList) do
    addInfo "IMPORT_RELATIVE_PATH" s!"Import uses relative path: '{d.path}'" d.position
      "Consider using absolute paths for better maintainability"
  pop

/-- Rules for variables. -/
def Variable.validate (d : Variable) : Validation Unit := do
  push s!"Variable({d.name})"
  when (!d.name.toList.all fun c => c == '_' || Text.isAlphanumeric c) do
    addWarning "VAR_NAMING" s!"Variable name '{d.name}' contains non-alphanumeric characters" d.position
      "Use only letters, numbers, and underscores in variable names"
  pop

/-! ## Units -/

/-- The length from which a text column is very large. -/
def largeTextLength : Int := 65535

/-- Rules for the type of a column. -/
def UnitField.validateType (f : UnitField) : Validation Unit :=
  match f.type.type with
  | .text (some length) => do
    when (length == 0) do
      addError "FIELD_TEXT_ZERO_LENGTH" s!"TEXT field '{f.name}' has zero length" f.position
        "Specify a positive length for TEXT fields"
    when (largeTextLength < length) do
      addWarning "FIELD_TEXT_LARGE" s!"TEXT field '{f.name}' has very large length ({length})" f.position
        "Consider using a smaller length or different field type"
  | .category values => do
    when values.isEmpty do
      addError "FIELD_CATEGORY_EMPTY" s!"CATEGORY field '{f.name}' has no values" f.position
        "Add at least one value to CATEGORY field"
    scan id values fun value repeated =>
      when repeated do
        addError "FIELD_CATEGORY_DUPLICATE" s!"CATEGORY field '{f.name}' has duplicate value '{value}'" f.position
          "Remove duplicate values from CATEGORY field"
  | _ => pure ()

/-- Rules for columns. -/
def UnitField.validate (f : UnitField) : Validation Unit := do
  push s!"Field({f.name})"
  f.validateType
  pop

/-- Rules for units. -/
def UnitDeclaration.validate (u : UnitDeclaration) : Validation Unit := do
  push s!"Unit({u.name})"
  when u.fields.isEmpty do
    addError "UNIT_EMPTY" s!"Unit '{u.name}' has no fields" u.position "Add field declarations to unit"
  when (!u.fields.any UnitField.primaryKey) do
    addWarning "UNIT_NO_PRIMARY_KEY" s!"Unit '{u.name}' has no primary key" u.position
      "Consider adding a PRIMARY KEY field"
  scan UnitField.name u.fields fun f repeated => do
    when repeated do
      addError "UNIT_FIELD_DUPLICATE" s!"Field '{f.name}' is declared multiple times in unit '{u.name}'" f.position
        "Remove duplicate field declaration"
    f.validate
  pop

/-! ## Vocabularies -/

/-- Rules for the bodies of vocabularies. -/
def VocabularyBody.validate (b : VocabularyBody) : Validation Unit := do
  push s!"VocabBody({b.name})"
  when b.entries.isEmpty do
    addWarning "VOCAB_BODY_EMPTY" s!"Vocabulary body '{b.name}' has no entries" b.position "Add vocabulary entries"
  scan (fun e : VocabularyEntry => e.key.text) b.entries fun e repeated =>
    when repeated do
      let key := e.key.text
      addError "VOCAB_DUPLICATE_KEY" s!"Vocabulary body '{b.name}' has duplicate key '{key}'" e.position
        "Remove duplicate key or use different key"
  pop

/-- Rules for vocabularies. -/
def Vocabulary.validate (v : Vocabulary) : Validation Unit := do
  push s!"Vocabulary({v.name})"
  when v.bodies.isEmpty do
    addError "VOCAB_EMPTY" s!"Vocabulary '{v.name}' has no bodies" v.position "Add at least one vocabulary body"
  v.bodies.forM VocabularyBody.validate
  pop

/-! ## Blocks -/

/-- The names of the fields of an identity block, in lower case. -/
def Identity.names (b : Identity) : List String :=
  b.fields.filterMap fun
    | .assignment a => some (Text.lower a.name)
    | .array a => some (Text.lower a.name)
    | .comment _ => none

/-- Rules for the identity of an outlet, which all its identity blocks give together. -/
def validateIdentity : List Identity → Validation Unit
  | [] => pure ()
  | first :: others => do
    let names := (first :: others).flatMap Identity.names
    push "Identity"
    when (!names.contains "id") do
      addError "IDENTITY_NO_ID" "Identity block missing required 'id' field" first.position
        "Add 'id = <number>' to identity block"
    when (!names.contains "title") do
      addWarning "IDENTITY_NO_TITLE" "Identity block missing 'title' field" first.position
        "Add 'title = \"<name>\"' to identity block"
    pop

/-- Rules for lifecycles. -/
def Lifecycle.validate (b : Lifecycle) : Validation Unit := do
  push "Lifecycle"
  when b.entries.isEmpty do
    addWarning "LIFECYCLE_EMPTY" "Lifecycle block has no entries" b.position "Add lifecycle status entries"
  scan LifecycleEntry.status b.entries fun e repeated =>
    when repeated do
      addWarning "LIFECYCLE_DUPLICATE_STATUS" s!"Duplicate lifecycle status '{e.status}'" e.position
        "Each status should appear only once"
  pop

/-- The assignments of a block. -/
def FieldBlock.assignments (b : FieldBlock) : List Assignment :=
  b.fields.filterMap Field.assignment?

/-- Rules for characteristics. -/
def FieldBlock.validateCharacteristics (b : FieldBlock) : Validation Unit := do
  push "Characteristics"
  when b.assignments.isEmpty do
    addWarning "CHARACTERISTICS_EMPTY" "Characteristics block has no fields" b.position
      "Add characteristic assignments"
  scan Assignment.name b.assignments fun a repeated =>
    when repeated do
      addWarning "CHARACTERISTICS_DUPLICATE" s!"Duplicate characteristic '{a.name}'" a.position
        "Remove duplicate characteristic"
  pop

/-- Rules for metadata. -/
def FieldBlock.validateMetadata (b : FieldBlock) : Validation Unit := do
  push "Metadata"
  when b.assignments.isEmpty do
    addInfo "METADATA_EMPTY" "Metadata block has no fields" b.position "Add metadata assignments"
  pop

/-- Rules for a block other than the identity. -/
def Block.validate : Block → Validation Unit
  | .lifecycle b => b.validate
  | .characteristics b => b.validateCharacteristics
  | .metadata b => b.validateMetadata
  | .identity _ | .comment _ => pure ()

/-- Rules for the blocks of an outlet or template. -/
def validateBlocks (blocks : List Block) : Validation Unit := do
  validateIdentity (identities blocks)
  blocks.forM Block.validate

/-! ## Templates and outlets -/

/-- Rules for templates. -/
def Template.validate (t : Template) : Validation Unit := do
  push s!"Template({t.name})"
  when t.blocks.isEmpty do
    addWarning "TEMPLATE_EMPTY" s!"Template '{t.name}' has no blocks" t.position
      "Add characteristics or metadata blocks to make template useful"
  validateBlocks t.blocks
  pop

/-- Whether a block holds characteristics. -/
def Block.isCharacteristics : Block → Bool
  | .characteristics _ => true
  | _ => false

/-- Rules for outlets. -/
def Outlet.validate (o : Outlet) : Validation Unit := do
  push s!"Outlet({o.name})"
  when (identities o.blocks).isEmpty do
    addError "OUTLET_NO_IDENTITY" s!"Outlet '{o.name}' has no identity block" o.position
      "Add an identity block with required fields"
  when (!o.blocks.any Block.isCharacteristics) do
    addWarning "OUTLET_NO_CHARACTERISTICS" s!"Outlet '{o.name}' has no characteristics block" o.position
      "Consider adding characteristics to describe the outlet"
  validateBlocks o.blocks
  pop

/-! ## Data and links -/

/-- Whether a block of data is a comment. -/
def DataBlock.isComment : DataBlock → Bool
  | .comment _ => true
  | _ => false

/-- Rules for data. -/
def Data.validate (d : Data) : Validation Unit := do
  let target := d.target.text
  push s!"Data({target})"
  unlessDeclared (.outlet d.target.integerPart) do
    addError "DATA_OUTLET_NOT_FOUND" s!"Data declaration references non-existent outlet ID {target}" d.position
      "Declare the outlet before adding data"
  when (d.blocks.all DataBlock.isComment) do
    addWarning "DATA_EMPTY" s!"Data declaration for outlet {target} has no blocks" d.position
      "Add data blocks (aggregation, years, etc.)"
  pop

/-- Rules for diachronic links. -/
def DiachronicLink.validate (l : DiachronicLink) : Validation Unit := do
  push s!"DiachronicRel({l.name})"
  let predecessor := l.predecessor.map Number.integerPart
  let successor := l.successor.map Number.integerPart
  predecessor.forM fun id =>
    unlessDeclared (.outlet id) do
      addError "RELATIONSHIP_PREDECESSOR_NOT_FOUND" s!"Predecessor outlet {id} not found" l.position
        "Declare the predecessor outlet before referencing it"
  successor.forM fun id =>
    unlessDeclared (.outlet id) do
      addError "RELATIONSHIP_SUCCESSOR_NOT_FOUND" s!"Successor outlet {id} not found" l.position
        "Declare the successor outlet before referencing it"
  when (predecessor.isSome && predecessor == successor) do
    addWarning "RELATIONSHIP_SELF_REFERENCE"
      "Diachronic relationship references the same outlet as both predecessor and successor" l.position
      "Verify this self-relationship is intentional"
  pop

/-- Rules for synchronous links. -/
def SynchronousLink.validate (l : SynchronousLink) : Validation Unit := do
  push s!"SynchronousRel({l.name})"
  let first := l.first.map fun s => s.outlet.integerPart
  let second := l.second.map fun s => s.outlet.integerPart
  [("1", first), ("2", second)].forM fun (index, outlet) =>
    outlet.forM fun id =>
      unlessDeclared (.outlet id) do
        addError s!"RELATIONSHIP_OUTLET{index}_NOT_FOUND" s!"Outlet {index} with ID {id} not found" l.position
          "Declare the outlet before referencing it"
  when (first.isSome && first == second) do
    addWarning "RELATIONSHIP_SELF_REFERENCE" "Synchronous relationship references the same outlet twice" l.position
      "Verify this self-relationship is intentional"
  pop

/-- Rules for links. -/
def Link.validate : Link → Validation Unit
  | .diachronic l => l.validate
  | .synchronous l => l.validate

/-! ## Families and statements -/

/-- Rules for a member of a family. -/
def FamilyMember.validate : FamilyMember → Validation Unit
  | .outlet o => o.validate
  | .link l => l.validate
  | .data d => d.validate
  | .reference _ | .comment _ => pure ()

/-- Rules for families. -/
def Family.validate (f : Family) : Validation Unit := do
  push s!"Family({f.name})"
  when f.members.isEmpty do
    addWarning "FAMILY_EMPTY" s!"Family '{f.name}' has no members" f.position
      "Add outlets, relationships, or data declarations"
  let outlets := f.outlets.length
  let links := f.links.length
  f.members.forM FamilyMember.validate
  when (outlets == 0) do
    addWarning "FAMILY_NO_OUTLETS" s!"Family '{f.name}' has no outlets" f.position
      "Add outlet declarations to family"
  when (decide (outlets ≤ 1) && decide (0 < links)) do
    addWarning "FAMILY_SINGLE_OUTLET_RELATIONSHIPS"
      s!"Family '{f.name}' has only {outlets} outlet(s) but {links} relationships" f.position
      "Relationships typically require multiple outlets"
  pop

/-- Rules for a statement. -/
def Statement.validate : Statement → Validation Unit
  | .importFile d => d.validate
  | .letVariable d => d.validate
  | .template d => d.validate
  | .unit d => d.validate
  | .vocabulary d => d.validate
  | .family d => d.validate
  | .data d => d.validate
  | .link d => d.validate
  | .event _ | .catalog _ | .comment _ => pure ()

end Ast

end MediaLanguage

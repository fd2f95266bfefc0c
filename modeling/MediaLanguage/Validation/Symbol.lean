import MediaLanguage.Model.Lowering
import MediaLanguage.Validation.Issue

/-!
# Declared symbols

What a program declares: names of several categories, and numbers of outlets. The table of symbols keeps the first
occurrences in order and the last place of each.
-/

namespace MediaLanguage

/-- Something that a program declares. -/
inductive Symbol where
  | importFile (path : String)
  | letVariable (name : String)
  | template (name : String)
  | unit (name : String)
  | vocabulary (name : String)
  | family (name : String)
  | outlet (id : Int)
deriving DecidableEq

/-- Declared symbols in the order of their first declaration, with the place of the last. -/
abbrev Symbols := List (Symbol × Position)

namespace Symbols

/-- The place of a symbol. -/
def find? (s : Symbols) (symbol : Symbol) : Option Position :=
  s.lookup symbol

/-- Whether a symbol is declared. -/
def declares (s : Symbols) (symbol : Symbol) : Bool :=
  (s.find? symbol).isSome

/-- The table after a declaration: a symbol that is declared already keeps its rank and takes the new place. -/
def insert : Symbols → Symbol → Position → Symbols
  | [], symbol, position => [(symbol, position)]
  | (other, place) :: s, symbol, position =>
    if other = symbol then (symbol, position) :: s else (other, place) :: insert s symbol position

end Symbols

/-- The rule against a second declaration of a symbol, and its wording. -/
def Symbol.redeclaration : Symbol → String × String
  | .importFile path => ("IMPORT_REDECLARED", s!"Import '{path}' is already declared")
  | .letVariable name => ("VAR_REDECLARED", s!"Variable '{name}' is already declared")
  | .template name => ("TEMPLATE_REDECLARED", s!"Template '{name}' is already declared")
  | .unit name => ("UNIT_REDECLARED", s!"Unit '{name}' is already declared")
  | .vocabulary name => ("VOCAB_REDECLARED", s!"Vocabulary '{name}' is already declared")
  | .family name => ("FAMILY_REDECLARED", s!"Family '{name}' is already declared")
  | .outlet id => ("OUTLET_ID_DUPLICATE", s!"Outlet ID {id} is already used")

/-- The hint at an earlier declaration. -/
def Symbol.previously (symbol : Symbol) (earlier : Position) : String :=
  match symbol with
  | .outlet _ => s!"Previous outlet at {earlier.text}"
  | _ => s!"Previous declaration at {earlier.text}"

/-- Whether a symbol counts as a construct of a program. -/
def Symbol.isConstruct : Symbol → Bool
  | .template _ | .unit _ | .vocabulary _ | .family _ => true
  | _ => false

/-- The path of enclosing declarations in words. -/
def contextText (path : List String) : String :=
  String.intercalate " > " path

end MediaLanguage

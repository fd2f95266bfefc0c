import MediaLanguage.Model.Lowering
import MediaLanguage.Proofs.Occurrence
import MediaLanguage.Proofs.Validation.Symbol

/-!
# Declarations that come again

The first step of a validation goes through the declarations of a program. It looks each up in the table of those in
front and then puts it there, so a second declaration is reported with the place of the one before it, and the table
ends with the last place of each symbol. Declarations of different kinds do not meet.

* `issues_collect` and `records_collect`: what is reported of declarations, and the table that they leave.
* `filter_collect`: the part of the table for one kind comes from the declarations of that kind.
* `Program.filter_declarations`: these are the statements of the kind, or the outlets with a number.
-/

namespace MediaLanguage

open Ast

/-! ## The table -/

namespace Symbols

section Collect

variable {s : Symbols} {path : List String} {symbol other : Symbol} {declarations : List (Symbol × Position)}

/-- The place of a symbol after a declaration. -/
theorem find?_insert (position : Position) :
    (s.insert symbol position).find? other = if other = symbol then some position else s.find? other := by
  unfold find?
  induction s with
  | nil => by_cases h : other = symbol <;> simp [insert, List.lookup_cons, h, beq_false_of_ne]
  | cons entry s ih =>
    obtain ⟨declared, place⟩ := entry
    rw [insert]
    by_cases h : other = symbol
    · subst h
      by_cases hdeclared : declared = other
      · simp [hdeclared]
      · simp [hdeclared, List.lookup_cons, ih, beq_false_of_ne (Ne.symm hdeclared)]
    · by_cases hdeclared : declared = symbol
      · simp [hdeclared, List.lookup_cons, h, beq_false_of_ne h]
      · simp [hdeclared, List.lookup_cons, ih, h]

/-- A table keeps the last place of a symbol. -/
theorem find?_collect : (collect path [] declarations).1.find? symbol =
    (declarations.reverse.find? fun d => d.1 == symbol).map Prod.snd := by
  induction declarations using List.reverseRecOn with
  | nil => rfl
  | append_singleton declarations d ih =>
    obtain ⟨declared, position⟩ := d
    rw [collect_append, collect, List.reverse_append, List.reverse_singleton, List.singleton_append, List.find?_cons]
    dsimp only
    rw [collect, find?_insert, ih]
    by_cases h : symbol = declared
    · simp [h]
    · have hne : (declared == symbol) = false := by simpa using Ne.symm h
      rw [if_neg h, hne]

/-- Every declaration of a symbol that has been declared is an issue, which points at the nearest declaration in front
of it. -/
theorem issues_collect : (collect path [] declarations).2 =
    (recurrences Prod.fst declarations).map fun x => redeclared path x.1.1 x.1.2 x.2.2 := by
  induction declarations using List.reverseRecOn with
  | nil => rfl
  | append_singleton declarations d ih =>
    obtain ⟨declared, position⟩ := d
    rw [collect_append, collect, recurrences_append_singleton, List.map_append, ih, find?_collect]
    dsimp only
    rw [collect, List.append_nil]
    cases declarations.reverse.find? fun d => d.1 == declared <;> rfl

/-- The table has the symbols of some declarations, in the order in which they are declared first, and every entry is
the last declaration of its symbol. -/
structure Records (declarations : List (Symbol × Position)) (s : Symbols) : Prop where
  keys : InFirstOrder (declarations.map Prod.fst) s.keys
  last : ∀ entry ∈ s, (declarations.reverse.find? fun d => d.1 == entry.1) = some entry

/-- Declarations fill a table that records them. -/
theorem records_collect : Records declarations (collect path [] declarations).1 := by
  have hkeys : InFirstOrder (declarations.map Prod.fst) (collect path [] declarations).1.keys := by
    induction declarations using List.reverseRecOn with
    | nil => exact inFirstOrder_nil
    | append_singleton declarations d ih =>
      have hinsert := ih.append_singleton d.1
      rw [collect_append, List.map_append, List.map_singleton]
      show InFirstOrder _ (((collect path [] declarations).1.insert d.1 d.2).keys)
      rw [keys_insert]
      simpa using hinsert
  refine ⟨hkeys, fun entry hentry => ?_⟩
  have hplace : (collect path [] declarations).1.find? entry.1 = some entry.2 := lookup_of_mem hkeys.nodup hentry
  rw [find?_collect, Option.map_eq_some_iff] at hplace
  obtain ⟨d, hd, hposition⟩ := hplace
  have hsymbol : d.1 = entry.1 := by simpa using List.find?_some hd
  rw [hd, Prod.ext hsymbol hposition]

/-- A declaration of another kind leaves the entries of a kind alone. -/
theorem filter_insert (select : Symbol → Bool) (position : Position) :
    List.filter (fun entry => select entry.1) (s.insert symbol position) =
      if select symbol then insert (s.filter fun entry => select entry.1) symbol position
      else s.filter fun entry => select entry.1 := by
  induction s with
  | nil => by_cases h : select symbol <;> simp [insert, h]
  | cons entry s ih =>
    obtain ⟨declared, place⟩ := entry
    rw [insert]
    by_cases hdeclared : declared = symbol
    · subst hdeclared
      by_cases h : select declared <;> simp [insert, h]
    · by_cases h : select symbol <;> by_cases h' : select declared <;> simp [insert, hdeclared, h, h', ih]

/-- The entries of a kind are those that the declarations of the kind leave. -/
theorem filter_collect (select : Symbol → Bool) :
    (collect path s declarations).1.filter (fun entry => select entry.1) =
      (collect path (s.filter fun entry => select entry.1) (declarations.filter fun d => select d.1)).1 := by
  induction declarations generalizing s with
  | nil => rfl
  | cons d declarations ih =>
    obtain ⟨symbol, position⟩ := d
    rw [collect]
    dsimp only
    rw [ih, filter_insert]
    by_cases h : select symbol
    · rw [if_pos h, List.filter_cons, if_pos h]
      rfl
    · rw [if_neg h, List.filter_cons, if_neg h]

end Collect

end Symbols

/-! ## Declarations of one kind -/

/-- What a symbol names. -/
inductive SymbolKind where
  | importFile | letVariable | template | unit | vocabulary | family | outlet
deriving DecidableEq

/-- The kind of a symbol. -/
def Symbol.kind : Symbol → SymbolKind
  | .importFile _ => .importFile
  | .letVariable _ => .letVariable
  | .template _ => .template
  | .unit _ => .unit
  | .vocabulary _ => .vocabulary
  | .family _ => .family
  | .outlet _ => .outlet

/-- The rule against a second declaration. -/
def SymbolKind.code : SymbolKind → String
  | .importFile => "IMPORT_REDECLARED"
  | .letVariable => "VAR_REDECLARED"
  | .template => "TEMPLATE_REDECLARED"
  | .unit => "UNIT_REDECLARED"
  | .vocabulary => "VOCAB_REDECLARED"
  | .family => "FAMILY_REDECLARED"
  | .outlet => "OUTLET_ID_DUPLICATE"

theorem SymbolKind.code_injective : Function.Injective code := by
  intro a b h
  cases a <;> cases b <;> first | rfl | exact absurd h (by decide)

theorem Symbol.redeclaration_code (symbol : Symbol) : symbol.redeclaration.1 = symbol.kind.code := by
  cases symbol <;> rfl

namespace Ast

/-- The declarations of one kind, in the order of the program. -/
def Program.declared (p : Program) : SymbolKind → List (Symbol × Position)
  | .importFile => p.imports.map fun d => (.importFile d.path, d.position)
  | .letVariable => p.bindings.map fun d => (.letVariable d.name, d.position)
  | .template => p.templates.map fun d => (.template d.name, d.position)
  | .unit => p.units.map fun d => (.unit d.name, d.position)
  | .vocabulary => p.vocabularies.map fun d => (.vocabulary d.name, d.position)
  | .family => p.families.map fun d => (.family d.name, d.position)
  | .outlet => p.outlets.filterMap fun o => o.declaredId?.map fun id => (.outlet id, o.position)

section Declared

variable {kind : SymbolKind}

theorem Outlet.filter_declarations (outlets : List Outlet) (h : kind ≠ .outlet) :
    (outlets.flatMap Outlet.declarations).filter (fun d => d.1.kind == kind) = [] := by
  rw [List.filter_eq_nil_iff]
  intro d hd
  obtain ⟨o, -, ho⟩ := List.mem_flatMap.1 hd
  obtain ⟨id, -, rfl⟩ := Option.map_eq_some_iff.1 (Option.mem_toList.1 ho)
  simpa [Symbol.kind] using Ne.symm h

theorem Outlet.filter_declarations_outlet (outlets : List Outlet) :
    (outlets.flatMap Outlet.declarations).filter (fun d => d.1.kind == .outlet) =
      outlets.filterMap fun o => o.declaredId?.map fun id => (Symbol.outlet id, o.position) := by
  rw [List.filterMap_eq_flatMap_toList]
  refine List.filter_eq_self.2 fun d hd => ?_
  obtain ⟨o, -, ho⟩ := List.mem_flatMap.1 hd
  obtain ⟨id, -, rfl⟩ := Option.map_eq_some_iff.1 (Option.mem_toList.1 ho)
  rfl

/-- A part of the declarations is gathered statement by statement. -/
theorem Program.filter_declarations_of {p : Program} {α : Type} {select : Statement → Option α}
    {declare : α → Symbol × Position}
    (h : ∀ s : Statement, s.declarations.filter (fun d => d.1.kind == kind) = ((select s).map declare).toList) :
    p.declarations.filter (fun d => d.1.kind == kind) = (p.statements.filterMap select).map declare := by
  rw [Program.declarations, List.filter_flatMap, List.map_filterMap, List.filterMap_eq_flatMap_toList]
  simp only [h]

/-- The declarations of one kind among all. -/
theorem Program.filter_declarations (p : Program) (kind : SymbolKind) :
    p.declarations.filter (fun d => d.1.kind == kind) = p.declared kind := by
  cases kind with
  | outlet =>
    rw [Program.declarations, List.filter_flatMap, Program.declared, Program.outlets, Program.families,
      List.filterMap_flatMap, List.filterMap_eq_flatMap_toList, List.flatMap_assoc]
    congr 1
    funext s
    cases s with
    | family f =>
      show (f.outlets.flatMap Outlet.declarations).filter _ = f.outlets.filterMap _ ++ []
      rw [Outlet.filter_declarations_outlet, List.append_nil]
    | _ => rfl
  | family =>
    refine Program.filter_declarations_of fun s => ?_
    cases s with
    | family f =>
      show _ :: (f.outlets.flatMap Outlet.declarations).filter _ = _
      rw [Outlet.filter_declarations f.outlets (by decide)]
      rfl
    | _ => rfl
  | _ =>
    refine Program.filter_declarations_of fun s => ?_
    cases s with
    | family f => exact Outlet.filter_declarations f.outlets (by decide)
    | _ => rfl

end Declared

end Ast

end MediaLanguage

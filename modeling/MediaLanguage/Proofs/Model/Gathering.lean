import Mathlib.Data.List.Flatten
import MediaLanguage.Proofs.Model.Closed

/-!
# Nothing is lost on the way to a model

A model keeps its links and data in its families. Those that stand outside the families of a program go to the end of
what the first family owns, or into a family that is made for them (`gathered`, `adopt_eq`). Either way each of them is
there once.

* `gathered_perm`, `own_sublist_gathered` and `loose_sublist_gathered`: what is gathered is what there was, and what
  comes from one place keeps its order.
* `Ast.Program.flatMap_statements_perm`: what the statements of a program declare is what its families own and what
  stands outside.
* `lower_keeps`: the model of a program holds what the program declares, each part once and in its order.
-/

namespace MediaLanguage

open Ast

/-! ## Gathering -/

section Gathering

variable {α β γ : Type}

/-- What families own, with what stands outside behind what the first of them owns. -/
def gathered (own : α → List β) (families : List α) (loose : List β) : List β :=
  (families.take 1).flatMap own ++ loose ++ (families.drop 1).flatMap own

variable {own : α → List β} {families : List α} {loose : List β}

/-- All that families own and all that stands outside is gathered, each as often as it is there. -/
theorem gathered_perm : (gathered own families loose).Perm (families.flatMap own ++ loose) := by
  have hfamilies : (families.take 1).flatMap own ++ (families.drop 1).flatMap own = families.flatMap own := by
    rw [← List.flatMap_append, List.take_append_drop]
  rw [← hfamilies, gathered, List.append_assoc, List.append_assoc]
  exact List.perm_append_comm.append_left _

/-- What a family owns keeps its order. -/
theorem own_sublist_gathered {f : α} (hf : f ∈ families) : (own f).Sublist (gathered own families loose) := by
  have hpart : ∀ fs : List α, f ∈ fs → (own f).Sublist (fs.flatMap own) := by
    intro fs hmem
    simpa using (List.singleton_sublist.2 hmem).flatMap own
  rw [← List.take_append_drop 1 families, List.mem_append] at hf
  obtain hfirst | hother := hf
  · exact ((hpart _ hfirst).trans (List.sublist_append_left _ _)).trans (List.sublist_append_left _ _)
  · exact (hpart _ hother).trans (List.sublist_append_right _ _)

/-- What stands outside keeps its order. -/
theorem loose_sublist_gathered : loose.Sublist (gathered own families loose) :=
  (List.sublist_append_right _ _).trans (List.sublist_append_left _ _)

/-- What is gathered is rewritten part by part. -/
theorem map_gathered (f : β → γ) :
    (gathered own families loose).map f = gathered (fun a => (own a).map f) families (loose.map f) := by
  simp [gathered, List.map_flatMap]

end Gathering

/-! ## Families of a model -/

namespace Model

/-- A family with more links and data behind its own. -/
def Family.adopting (f : Family) (links : List Link) (data : List DataBlock) : Family :=
  { f with links := f.links ++ links, data := f.data ++ data }

end Model

section Adopt

variable (families : List Model.Family) (links : List Model.Link) (data : List Model.DataBlock)

/-- The first family adopts, and where there is none, one is made if there is something to adopt. -/
theorem adopt_eq :
    adopt families links data =
      (families.take 1).map (·.adopting links data) ++ families.drop 1 ++
        if families = [] ∧ (links ≠ [] ∨ data ≠ []) then [globalFamily links data] else [] := by
  unfold adopt
  split
  · next hempty =>
    rw [Bool.and_eq_true, List.isEmpty_iff, List.isEmpty_iff] at hempty
    obtain ⟨rfl, rfl⟩ := hempty
    cases families <;> simp [Model.Family.adopting]
  · next hsome =>
    have hparts : links ≠ [] ∨ data ≠ [] := by
      rwa [Bool.and_eq_true, List.isEmpty_iff, List.isEmpty_iff, not_and_or] at hsome
    cases families with
    | nil => simp [hparts]
    | cons first others => simp [Model.Family.adopting]

/-- What families that have adopted own is gathered, if a family that adopts puts it behind its own. -/
theorem flatMap_adopt {α : Type} (own : Model.Family → List α) (loose : List α)
    (hown : ∀ f : Model.Family, own (f.adopting links data) = own f ++ loose)
    (hglobal : own (globalFamily links data) = loose) (hloose : links = [] → data = [] → loose = []) :
    (adopt families links data).flatMap own = gathered own families loose := by
  rw [adopt_eq]
  cases families with
  | nil =>
    by_cases hparts : links ≠ [] ∨ data ≠ []
    · simp [gathered, hparts, hglobal]
    · obtain ⟨hlinks, hdata⟩ := not_or.1 hparts
      simp [gathered, hparts, hloose (not_not.1 hlinks) (not_not.1 hdata)]
  | cons first others => simp [gathered, hown]

end Adopt

/-! ## Statements -/

namespace Ast

/-- The family that a statement declares. -/
def Statement.family? : Statement → Option Family
  | .family f => some f
  | _ => none

/-- The links that a statement declares, as one or in a family. -/
def Statement.declaredLinks : Statement → List Link
  | .link l => [l]
  | .family f => f.links
  | _ => []

/-- The data that a statement declares, as one or in a family. -/
def Statement.declaredData : Statement → List Data
  | .data d => [d]
  | .family f => f.data
  | _ => []

variable (p : Program)

/-- What statements declare is what families own and what stands outside. -/
theorem Program.flatMap_statements_perm {α : Type} {parts : Statement → List α} {own : Family → List α}
    {loose? : Statement → Option α} (h : ∀ s, parts s = s.family?.toList.flatMap own ++ (loose? s).toList) :
    (p.families.flatMap own ++ p.statements.filterMap loose?).Perm (p.statements.flatMap parts) := by
  have hfamilies : p.families = p.statements.flatMap fun s => s.family?.toList := List.filterMap_eq_flatMap_toList _ _
  rw [hfamilies, List.flatMap_assoc, List.filterMap_eq_flatMap_toList, funext h]
  exact List.flatMap_append_perm _ _ _

/-- The links that are gathered are those that the statements declare. -/
theorem Program.gathered_links_perm :
    (gathered Family.links p.families p.looseLinks).Perm (p.statements.flatMap Statement.declaredLinks) := by
  refine gathered_perm.trans (p.flatMap_statements_perm fun s => ?_)
  cases s <;> simp [Statement.declaredLinks, Statement.family?]

/-- The data that are gathered are those that the statements declare. -/
theorem Program.gathered_data_perm :
    (gathered Family.data p.families p.looseData).Perm (p.statements.flatMap Statement.declaredData) := by
  refine gathered_perm.trans (p.flatMap_statements_perm fun s => ?_)
  cases s <;> simp [Statement.declaredData, Statement.family?]

/-- The links of a model are the gathered ones. -/
theorem Program.links_toModel :
    p.toModel.links = (gathered Family.links p.families p.looseLinks).map Link.lower := by
  rw [map_gathered]
  have hadopt := flatMap_adopt (p.families.map Family.lower) (p.looseLinks.map Link.lower)
    (p.looseData.map Data.lower) Model.Family.links (p.looseLinks.map Link.lower) (fun _ => rfl) rfl
    fun hlinks _ => hlinks
  refine hadopt.trans ?_
  rw [gathered, ← List.map_take, ← List.map_drop, List.flatMap_map, List.flatMap_map]
  rfl

/-- The data of a model are the gathered ones. -/
theorem Program.data_toModel :
    p.toModel.data = (gathered Family.data p.families p.looseData).map Data.lower := by
  rw [map_gathered]
  have hadopt := flatMap_adopt (p.families.map Family.lower) (p.looseLinks.map Link.lower)
    (p.looseData.map Data.lower) Model.Family.data (p.looseData.map Data.lower) (fun _ => rfl) rfl
    fun _ hdata => hdata
  refine hadopt.trans ?_
  rw [gathered, ← List.map_take, ← List.map_drop, List.flatMap_map, List.flatMap_map]
  rfl

/-- The families of a model are the declared ones, of which the first adopts. There is one more, without outlets,
exactly if none is declared and there is something to adopt. -/
theorem Program.families_toModel : ∃ extra, p.toModel.families =
      (p.families.take 1).map (fun f => f.lower.adopting (p.looseLinks.map Link.lower) (p.looseData.map Data.lower)) ++
        (p.families.drop 1).map Family.lower ++ extra ∧
    extra.length ≤ 1 ∧ (∀ f ∈ extra, f.outlets = []) ∧
    (extra ≠ [] ↔ p.families = [] ∧ (p.looseLinks ≠ [] ∨ p.looseData ≠ [])) := by
  have hadopt := adopt_eq (p.families.map Family.lower) (p.looseLinks.map Link.lower) (p.looseData.map Data.lower)
  rw [← List.map_take, ← List.map_drop, List.map_map] at hadopt
  refine ⟨_, hadopt, ?_, ?_, ?_⟩
  · split <;> simp
  · split <;> simp [globalFamily]
  · split <;> simp_all

end Ast

/-! ## Models -/

/-- `ys` is what `f` makes of the parts that the statements of a program declare, of each as often as it is declared:
what the families own and what stands outside, each in the order of the source. -/
structure Gathers {α β : Type} (p : Program) (declared : Statement → List α) (own : Family → List α) (loose : List α)
    (f : α → β) (ys : List β) : Prop where
  perm : ys.Perm ((p.statements.flatMap declared).map f)
  inside : ∀ g ∈ p.families, ((own g).map f).Sublist ys
  outside : (loose.map f).Sublist ys
  /-- What stands outside is behind what the first family owns. -/
  eq : ys = (gathered own p.families loose).map f

/-- What is gathered from a program. -/
theorem Gathers.of_perm {α β : Type} {p : Program} {declared : Statement → List α} {own : Family → List α}
    {loose : List α} (h : (gathered own p.families loose).Perm (p.statements.flatMap declared)) (f : α → β) :
    Gathers p declared own loose f ((gathered own p.families loose).map f) where
  perm := h.map f
  inside _ hg := (own_sublist_gathered hg).map f
  outside := loose_sublist_gathered.map f
  eq := rfl

/-- The model holds what the program declares. -/
structure Keeps (p : Program) (m : Model.Program) : Prop where
  outlets : m.outlets = p.outlets.map Outlet.lower
  links : Gathers p Statement.declaredLinks Family.links p.looseLinks Link.lower m.links
  data : Gathers p Statement.declaredData Family.data p.looseData Data.lower m.data
  imports : m.imports = p.imports.map Import.path
  bindings : m.bindings = p.bindings.map fun v => ⟨v.name, v.value.lower⟩
  templates : m.templates = p.templates.map Template.lower
  units : m.units = p.units.map UnitDeclaration.lower
  vocabularies : m.vocabularies = p.vocabularies.map Vocabulary.lower
  events : m.events = p.events.map Event.lower
  /-- The families are the declared ones, of which the first adopts. There is one more, without outlets, exactly if
  none is declared and there is something to adopt. -/
  families : ∃ extra, m.families =
      (p.families.take 1).map (fun f => f.lower.adopting (p.looseLinks.map Link.lower) (p.looseData.map Data.lower)) ++
        (p.families.drop 1).map Family.lower ++ extra ∧
    extra.length ≤ 1 ∧ (∀ f ∈ extra, f.outlets = []) ∧
    (extra ≠ [] ↔ p.families = [] ∧ (p.looseLinks ≠ [] ∨ p.looseData ≠ []))

/-- **Lowering loses and doubles nothing.** A program whose numbers are finite has a model, which holds what the
program declares. -/
theorem lower_keeps {p : Program} (hfinite : ∀ x ∈ p.integers, x.isFinite) : ∃ m, p.lower = .ok m ∧ Keeps p m := by
  have hlower : p.lower = .ok p.toModel := by
    rw [Program.lower, Number.requireIntegers_of_finite hfinite]
    rfl
  refine ⟨p.toModel, hlower, ?_⟩
  exact {
    outlets := p.outlets_toModel
    links := p.links_toModel ▸ .of_perm p.gathered_links_perm Link.lower
    data := p.data_toModel ▸ .of_perm p.gathered_data_perm Data.lower
    imports := rfl
    bindings := rfl
    templates := rfl
    units := rfl
    vocabularies := rfl
    events := rfl
    families := p.families_toModel }

/-- Links in front of, between and behind two families, and in both of them. -/
def scatteredProgram : Program :=
  let link := fun name position => Link.diachronic { name, position }
  ⟨[.link (link "a" ⟨1, 1, 0⟩),
    .family ⟨"F", [.link (link "b" ⟨3, 3, 40⟩)], ⟨2, 1, 25⟩⟩,
    .link (link "c" ⟨5, 1, 70⟩),
    .family ⟨"G", [.link (link "d" ⟨7, 3, 110⟩), .data ⟨.zero, [], ⟨8, 3, 140⟩⟩], ⟨6, 1, 95⟩⟩,
    .data ⟨.zero, [], ⟨10, 1, 160⟩⟩,
    .link (link "e" ⟨11, 1, 175⟩)]⟩

/-- The links outside go behind the one of the first family, and all of them are there. -/
theorem lower_keeps_scatteredProgram :
    (∀ x ∈ scatteredProgram.integers, x.isFinite) ∧ ∃ m, scatteredProgram.lower = .ok m ∧ Keeps scatteredProgram m ∧
      m.links.map Model.Link.name = ["b", "a", "c", "e", "d"] ∧ m.data.length = 2 := by
  have hfinite : ∀ x ∈ scatteredProgram.integers, x.isFinite := by decide
  obtain ⟨m, hm, hkeeps⟩ := lower_keeps hfinite
  refine ⟨hfinite, m, hm, hkeeps, ?_, ?_⟩
  · rw [hkeeps.links.eq]
    rfl
  · rw [hkeeps.data.eq]
    rfl

end MediaLanguage

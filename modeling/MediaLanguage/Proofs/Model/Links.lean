import MediaLanguage.Proofs.Model.Closed

/-!
# Links of programs that pass

Validation looks up the outlets that a link names. An end that a link leaves out is not looked up, and in the model it
is zero, which need not be the number of an outlet.

* `Link.ends_lower`: the ends of a link of the model are those of the link, or zero.
* `link_ends_iff`: in the model of a program that passes, all links lead from outlets to outlets exactly if they name
  both ends, or zero is the number of an outlet.
* `not_link_ends`: a link that leaves out an end leads from or to no outlet.
-/

namespace MediaLanguage

namespace Model

/-- The numbers at the two ends of a link. -/
def Link.ends : Link → List Int
  | .diachronic l => [l.predecessor, l.successor]
  | .synchronous l => [l.first.outlet, l.second.outlet]

end Model

open Ast

section Links

variable {p : Program} {v : Verdict} {m : Model.Program}

/-- The ends of a link of the model; zero stands for an end that is left out. -/
theorem Ast.Link.ends_lower (l : Link) : l.lower.ends = l.ends.map integerOrZero := by
  cases l with
  | diachronic l => rfl
  | synchronous l =>
    show [((l.first.map OutletSpec.lower).getD {}).outlet, ((l.second.map OutletSpec.lower).getD {}).outlet] =
      [integerOrZero (l.first.map OutletSpec.outlet), integerOrZero (l.second.map OutletSpec.outlet)]
    cases l.first <;> cases l.second <;> rfl

/-- Families adopt the links that stand outside, and keep their own. -/
theorem mem_links_adopt {families : List Model.Family} {links : List Model.Link} {data : List Model.DataBlock}
    {l : Model.Link} :
    l ∈ (adopt families links data).flatMap Model.Family.links ↔
      l ∈ families.flatMap Model.Family.links ∨ l ∈ links := by
  unfold adopt
  split
  · next hempty =>
    rw [Bool.and_eq_true, List.isEmpty_iff] at hempty
    simp [hempty.1]
  · cases families with
    | nil => simp [globalFamily]
    | cons first others =>
      simp only [List.flatMap_cons, List.mem_append]
      tauto

/-- The links of a model are those of the program. -/
theorem Ast.Program.mem_links_toModel {l : Model.Link} : l ∈ p.toModel.links ↔ ∃ s ∈ p.allLinks, s.lower = l := by
  have hfamilies : (p.families.map Family.lower).flatMap Model.Family.links =
      (p.families.flatMap Family.links).map Link.lower := by
    rw [List.flatMap_map, List.map_flatMap]
    rfl
  show l ∈ (adopt _ _ _).flatMap Model.Family.links ↔ _
  rw [mem_links_adopt, hfamilies, ← List.mem_append, ← List.map_append, List.mem_map]
  rfl

/-- An outlet that a link names is in the model. -/
theorem mem_outletIds_of_end (h : p.Passes) {l : Link} (hl : l ∈ p.allLinks) {x : Number} (hx : some x ∈ l.ends) :
    x.integerPart ∈ p.toModel.outletIds := by
  obtain ⟨o, ho, hid⟩ := exists_model_outlet (end_declared h hl hx)
  exact List.mem_filterMap.2 ⟨o, ho, hid⟩

/-- The links of the model of a program that passes are those of the program: an end that is given is the number of an
outlet, and one that is left out is zero. So all ends are numbers of outlets exactly if none is left out, or zero is
the number of an outlet. -/
theorem link_ends_iff (hv : p.validate = .ok v) (hpassed : v.passed = true) (hm : p.lower = .ok m) :
    (∀ l ∈ m.links, ∃ s ∈ p.allLinks, s.lower = l ∧ l.ends = s.ends.map integerOrZero ∧
        ∀ x, some x ∈ s.ends → x.integerPart ∈ m.outletIds) ∧
      ((∀ l ∈ m.links, ∀ id ∈ l.ends, id ∈ m.outletIds) ↔
        (∀ s ∈ p.allLinks, none ∉ s.ends) ∨ 0 ∈ m.outletIds) := by
  have hpasses := passes_of_validate hv hpassed
  obtain rfl := Program.eq_toModel hm
  have hlinks : ∀ l ∈ p.toModel.links, ∃ s ∈ p.allLinks, s.lower = l ∧ l.ends = s.ends.map integerOrZero ∧
      ∀ x, some x ∈ s.ends → x.integerPart ∈ p.toModel.outletIds := by
    intro l hl
    obtain ⟨s, hs, rfl⟩ := Program.mem_links_toModel.1 hl
    exact ⟨s, hs, rfl, s.ends_lower, fun x hx => mem_outletIds_of_end hpasses hs hx⟩
  refine ⟨hlinks, ?_, ?_⟩
  · intro hends
    by_cases hzero : 0 ∈ p.toModel.outletIds
    · exact .inr hzero
    · refine .inl fun s hs hnone => hzero ?_
      have hmem : 0 ∈ s.lower.ends := by
        rw [s.ends_lower]
        exact List.mem_map.2 ⟨none, hnone, rfl⟩
      exact hends s.lower (Program.mem_links_toModel.2 ⟨s, hs, rfl⟩) 0 hmem
  · intro hgiven l hl id hid
    obtain ⟨s, hs, -, hends, hdeclared⟩ := hlinks l hl
    rw [hends] at hid
    obtain ⟨x, hx, rfl⟩ := List.mem_map.1 hid
    cases x with
    | some x => exact hdeclared x hx
    | none =>
      obtain hall | hzero := hgiven
      · exact absurd hx (hall s hs)
      · exact hzero

/-- A link in a family, with a number that has a fraction, and a link outside. -/
def linkedSource : String :=
  "family \"F\" \x7b outlet \"A\" \x7b identity \x7b id = 1; \x7d \x7d "
    ++ "diachronic_link l \x7b predecessor = 1.5; successor = 1; \x7d \x7d "
    ++ "synchronous_link k \x7b outlet_1 = \x7b id = 1; \x7d; outlet_2 = \x7b id = 1; \x7d; \x7d"

/-- Both links name their ends, which are outlets. -/
theorem link_ends_linkedSource :
    ∃ p v m, parse linkedSource = .ok p ∧ p.validate = .ok v ∧ v.passed = true ∧ p.lower = .ok m ∧
      m.links.length = 2 ∧ ∀ l ∈ m.links, ∀ id ∈ l.ends, id ∈ m.outletIds := by
  have hsays : ((parse linkedSource).toOption.map fun p =>
      ((Validator.integers p ++ p.integers).all Number.isFinite, (Validator.run {} p).verdict.passed,
        decide (∀ s ∈ p.allLinks, none ∉ s.ends), p.toModel.links.length)) = some (true, true, true, 2) := by
    have hchars : linkedSource.toList = _ :=
      toList_append_of (toList_append_of String.toList_ofList String.toList_ofList) String.toList_ofList
    rw [parse_of_toList hchars]
    decide +kernel
  obtain ⟨p, v, hp, hv, hpassed, hm, hsaid⟩ := exists_model_of_source hsays
  obtain ⟨hgiven, hlength⟩ := Prod.mk.inj hsaid
  have hends := (link_ends_iff hv hpassed hm).2
  exact ⟨p, v, _, hp, hv, hpassed, hm, hlength, hends.2 (.inl (of_decide_eq_true hgiven))⟩

/-- A link that leaves out one of its ends. -/
def danglingSource : String :=
  "FAMILY \"F\" \x7b OUTLET \"A\" \x7b identity \x7b id = 1; \x7d; \x7d; " ++
    "DIACHRONIC_LINK l \x7b successor = 1; \x7d; \x7d"

/-- Not every text whose program passes has outlets at both ends of its links. -/
theorem not_link_ends :
    ¬∀ source p v m, parse source = .ok p → p.validate = .ok v → v.passed = true → p.lower = .ok m →
      ∀ l ∈ m.links, ∀ id ∈ l.ends, id ∈ m.outletIds := by
  intro hends
  have hsays : ((parse danglingSource).toOption.map fun p =>
      ((Validator.integers p ++ p.integers).all Number.isFinite, (Validator.run {} p).verdict.passed,
        decide (∀ l ∈ p.toModel.links, ∀ id ∈ l.ends, id ∈ p.toModel.outletIds))) = some (true, true, false) := by
    have hchars : danglingSource.toList = _ := toList_append_of String.toList_ofList String.toList_ofList
    rw [parse_of_toList hchars]
    decide +kernel
  obtain ⟨p, v, hp, hv, hpassed, hm, hsaid⟩ := exists_model_of_source hsays
  exact of_decide_eq_false hsaid (hends _ p v _ hp hv hpassed hm)

end Links

end MediaLanguage

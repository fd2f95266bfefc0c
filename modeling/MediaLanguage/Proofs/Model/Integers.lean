import MediaLanguage.Anmi.Script
import MediaLanguage.Proofs.Ast.Leaves
import MediaLanguage.Proofs.Model.Closed

/-!
# Where integers come from

Validation, lowering and the ANMI script turn numbers into integers, each at places of its own. All these numbers are
leaves of the program, or zero where the program gives none.

* `mem_integers_of_validator`: validation converts no number that lowering does not convert.
* `written_of_mem_integers`: the numbers that lowering converts are leaves of the program, or zero.
* `written_of_mem_anmi`: so are those that the ANMI script converts.
-/

namespace MediaLanguage

namespace Ast

/-- The number is zero, or one of the leaves. -/
def Written (leaves : List Leaf) (x : Number) : Prop :=
  x = .zero ∨ .number x ∈ leaves

section Written

variable {x : Number}

/-- A number of one part is one of all parts. -/
theorem Written.flatMap {β : Type} {part : β → List Leaf} {b : β} {bs : List β} (h : Written (part b) x)
    (hb : b ∈ bs) : Written (bs.flatMap part) x :=
  h.imp_right fun hx => List.mem_flatMap.2 ⟨b, hb, hx⟩

/-- A number of the leaves is one of more leaves. -/
theorem Written.mono {leaves more : List Leaf} (h : Written leaves x) (hsub : leaves ⊆ more) : Written more x :=
  h.imp_right fun hx => hsub hx

end Written

/-! ## Lowering -/

section Lowering

variable {p : Program} {x : Number}

/-- The number that an identity block gives is a leaf of the block. -/
theorem Identity.mem_leaves_of_idNumber? {b : Identity} (h : b.idNumber? = some x) :
    .number x ∈ (Block.identity b).leaves := by
  unfold idNumber? at h
  split at h
  · next name y position hid =>
    cases h
    obtain ⟨f, hf, hassignment⟩ := List.mem_filterMap.1 (List.mem_of_find?_eq_some hid)
    split at hassignment
    · cases hassignment
      refine List.mem_flatMap.2 ⟨_, hf, ?_⟩
      simp [IdentityField.leaves, Assignment.leaves, Expr.leaves]
    · cases hassignment
  · cases h

/-- The numbers of an outlet that have to be integers are leaves of it. -/
theorem Outlet.mem_leaves_of_mem_integers {o : Outlet} (h : x ∈ o.integers) : .number x ∈ o.leaves := by
  obtain hid | hbase := List.mem_append.1 h
  · obtain ⟨b, hb, hnumber⟩ := List.exists_of_findSome?_eq_some (Option.mem_toList.1 hid)
    obtain ⟨block, hblock, hidentity⟩ := List.mem_filterMap.1 hb
    split at hidentity
    · cases hidentity
      exact List.mem_append_right _ (List.mem_flatMap.2 ⟨_, hblock, b.mem_leaves_of_idNumber? hnumber⟩)
    · cases hidentity
  · obtain ⟨clause, hclause, houtlet⟩ := Option.bind_eq_some_iff.1 (Option.mem_toList.1 hbase)
    refine List.mem_append_left _ (List.mem_flatMap.2 ⟨clause, Option.mem_toList.2 hclause, ?_⟩)
    cases clause with
    | template => cases houtlet
    | outlet =>
      cases houtlet
      exact List.mem_singleton_self _

/-- The numbers of a link that have to be integers are leaves of it, or zero. -/
theorem Link.written_of_mem_integers {l : Link} (h : x ∈ l.integers) : Written l.leaves x := by
  cases l with
  | diachronic l =>
    refine .inr ?_
    obtain hx | hx := List.mem_append.1 h <;> simp [leaves, DiachronicLink.leaves, numberLeaves, Option.mem_toList.1 hx]
  | synchronous l =>
    obtain ⟨side, hside, rfl⟩ := List.mem_map.1 h
    have hspec : Written side.leaves side.outlet := by
      by_cases hzero : side.outlet = .zero
      · exact .inl hzero
      · exact .inr (by simp [OutletSpec.leaves, hzero])
    obtain hside | hside := List.mem_append.1 hside
    · exact (hspec.flatMap hside).mono fun _ hl => List.mem_append_left _ (List.mem_append_left _ hl)
    · exact (hspec.flatMap hside).mono fun _ hl => List.mem_append_left _ (List.mem_append_right _ hl)

/-- The years of data are blocks of the data. -/
theorem Data.mem_blocks_of_mem_years {d : Data} {y : Year} (hy : y ∈ d.years) : DataBlock.year y ∈ d.blocks := by
  obtain ⟨b, hb, hyear⟩ := List.mem_filterMap.1 hy
  cases b with
  | year z =>
    cases hyear
    exact hb
  | _ => cases hyear

/-- The numbers of data that have to be integers are leaves of the data. -/
theorem Data.mem_leaves_of_mem_integers {d : Data} (h : x ∈ d.integers) : .number x ∈ d.leaves := by
  obtain rfl | hyear := List.mem_cons.1 h
  · exact List.mem_cons_self
  · obtain ⟨y, hy, rfl⟩ := List.mem_map.1 hyear
    exact List.mem_cons_of_mem _ (List.mem_flatMap.2 ⟨_, d.mem_blocks_of_mem_years hy, List.mem_cons_self⟩)

/-- The numbers of a member of a family that have to be integers. -/
def FamilyMember.integers : FamilyMember → List Number
  | .outlet o => o.integers
  | .link l => l.integers
  | .data d => d.integers
  | .reference _ | .comment _ => []

/-- The numbers of a family that have to be integers are those of its members. -/
theorem Family.mem_integers_iff {f : Family} : x ∈ f.integers ↔ ∃ m ∈ f.members, x ∈ m.integers := by
  simp only [integers, outlets, links, data, List.mem_append, List.mem_flatMap, List.mem_filterMap]
  constructor
  · rintro ((⟨a, ⟨m, hm, ha⟩, hx⟩ | ⟨a, ⟨m, hm, ha⟩, hx⟩) | ⟨a, ⟨m, hm, ha⟩, hx⟩) <;> refine ⟨m, hm, ?_⟩ <;>
      split at ha <;> cases ha <;> exact hx
  · rintro ⟨m, hm, hx⟩
    cases m with
    | outlet o => exact .inl (.inl ⟨o, ⟨_, hm, rfl⟩, hx⟩)
    | link l => exact .inl (.inr ⟨l, ⟨_, hm, rfl⟩, hx⟩)
    | data d => exact .inr ⟨d, ⟨_, hm, rfl⟩, hx⟩
    | reference => cases hx
    | comment => cases hx

/-- The numbers of a member of a family that have to be integers are leaves of it, or zero. -/
theorem FamilyMember.written_of_mem_integers {m : FamilyMember} (h : x ∈ m.integers) : Written m.leaves x := by
  cases m with
  | outlet o => exact .inr (o.mem_leaves_of_mem_integers h)
  | link l => exact l.written_of_mem_integers h
  | data d => exact .inr (d.mem_leaves_of_mem_integers h)
  | reference => cases h
  | comment => cases h

/-- The numbers of a statement that have to be integers. -/
def Statement.integers : Statement → List Number
  | .family f => f.integers
  | .link l => l.integers
  | .data d => d.integers
  | .event e => e.entities.filterMap EventEntity.outlet
  | _ => []

/-- The numbers of a program that have to be integers are those of its statements. -/
theorem Program.mem_integers_iff : x ∈ p.integers ↔ ∃ s ∈ p.statements, x ∈ s.integers := by
  simp only [integers, families, looseLinks, looseData, events, List.mem_append, List.mem_flatMap, List.mem_filterMap]
  constructor
  · rintro (((⟨a, ⟨s, hs, ha⟩, hx⟩ | ⟨a, ⟨s, hs, ha⟩, hx⟩) | ⟨a, ⟨s, hs, ha⟩, hx⟩) | ⟨a, ⟨s, hs, ha⟩, hx⟩) <;>
      refine ⟨s, hs, ?_⟩ <;> split at ha <;> cases ha
    · exact hx
    · exact hx
    · exact hx
    · exact List.mem_filterMap.2 hx
  · rintro ⟨s, hs, hx⟩
    cases s with
    | family f => exact .inl (.inl (.inl ⟨f, ⟨_, hs, rfl⟩, hx⟩))
    | link l => exact .inl (.inl (.inr ⟨l, ⟨_, hs, rfl⟩, hx⟩))
    | data d => exact .inl (.inr ⟨d, ⟨_, hs, rfl⟩, hx⟩)
    | event e => exact .inr ⟨e, ⟨_, hs, rfl⟩, List.mem_filterMap.1 hx⟩
    | _ => cases hx

/-- The numbers of a statement that have to be integers are leaves of it, or zero. -/
theorem Statement.written_of_mem_integers {s : Statement} (h : x ∈ s.integers) : Written s.leaves x := by
  cases s with
  | family f =>
    obtain ⟨m, hm, hx⟩ := Family.mem_integers_iff.1 h
    exact (m.written_of_mem_integers hx).flatMap hm
  | link l => exact l.written_of_mem_integers h
  | data d => exact .inr (d.mem_leaves_of_mem_integers h)
  | event e =>
    obtain ⟨entity, hentity, hx⟩ := List.mem_filterMap.1 h
    have hleaf : .number x ∈ entity.leaves := by simp [EventEntity.leaves, numberLeaves, hx]
    refine .inr (List.mem_cons_of_mem _ (List.mem_append_left _ (List.mem_append_left _ ?_)))
    exact List.mem_flatMap.2 ⟨entity, hentity, hleaf⟩
  | _ => cases h

/-- The numbers that lowering turns into integers are leaves of the program, or zero. -/
theorem Program.written_of_mem_integers (h : x ∈ p.integers) : Written p.leaves x := by
  obtain ⟨s, hs, hx⟩ := mem_integers_iff.1 h
  exact (s.written_of_mem_integers hx).flatMap hs

end Lowering

/-! ## Validation -/

section Validation

variable {p : Program} {x : Number}

/-- The numbers of a declared outlet have to be integers. -/
theorem Program.mem_integers_of_outlet {o : Outlet} (ho : o ∈ p.outlets) (hx : x ∈ o.integers) : x ∈ p.integers := by
  obtain ⟨f, hf, ho⟩ := List.mem_flatMap.1 ho
  refine List.mem_append_left _ (List.mem_append_left _ (List.mem_append_left _ (List.mem_flatMap.2 ⟨f, hf, ?_⟩)))
  exact List.mem_append_left _ (List.mem_append_left _ (List.mem_flatMap.2 ⟨o, ho, hx⟩))

/-- The numbers of outlets that a statement refers to have to be integers. -/
theorem Statement.mem_integers_of_referredNumbers {s : Statement} (h : x ∈ s.referredNumbers) : x ∈ s.integers := by
  cases s with
  | family f =>
    obtain ⟨m, hm, hx⟩ := List.mem_flatMap.1 h
    refine Family.mem_integers_iff.2 ⟨m, hm, ?_⟩
    cases m with
    | data d =>
      rw [List.mem_singleton.1 hx]
      exact List.mem_cons_self
    | link l => exact hx
    | _ => cases hx
  | data d =>
    rw [List.mem_singleton.1 h]
    exact List.mem_cons_self
  | link l => exact h
  | _ => cases h

/-- Validation turns no number into an integer that lowering does not turn into one. -/
theorem Program.mem_integers_of_validator (h : x ∈ Validator.integers p) : x ∈ p.integers := by
  obtain hdeclared | hbase := List.mem_append.1 h
  · obtain hdeclared | hreferred := List.mem_append.1 hdeclared
    · obtain ⟨o, ho, hid⟩ := List.mem_filterMap.1 hdeclared
      exact p.mem_integers_of_outlet ho (List.mem_append_left _ (Option.mem_toList.2 hid))
    · obtain ⟨s, hs, hx⟩ := List.mem_flatMap.1 hreferred
      exact mem_integers_iff.2 ⟨s, hs, s.mem_integers_of_referredNumbers hx⟩
  · obtain ⟨o, ho, hbase⟩ := List.mem_filterMap.1 hbase
    exact p.mem_integers_of_outlet ho (List.mem_append_right _ (Option.mem_toList.2 hbase))

end Validation

/-! ## The ANMI script -/

section Anmi

variable {p : Program} {x : Number}

/-- A value that is a number is that of an expression that is one. -/
theorem Expr.leaves_of_lower {e : Expr} (h : e.lower = .number x) : .number x ∈ e.leaves := by
  cases e with
  | number value position =>
    rw [Expr.lower] at h
    cases h
    exact List.mem_singleton_self _
  | _ => simp [Expr.lower] at h

/-- The number that a field of an outlet holds is a leaf of the assignment. -/
theorem Assignment.mem_leaves_of_fieldNumber? {a : Assignment} (h : Anmi.fieldNumber? a.lower = some x) :
    .number x ∈ a.leaves := by
  unfold Anmi.fieldNumber? at h
  split at h
  · next y hvalue =>
    cases h
    exact List.mem_cons_of_mem _ (Expr.leaves_of_lower hvalue)
  · cases h

/-- The numbers among the fields of a block are leaves of the fields. -/
theorem mem_leaves_of_lowerFields {fields : List Field} {f : Model.Assignment} (hf : f ∈ lowerFields fields)
    (hx : Anmi.fieldNumber? f = some x) : .number x ∈ fields.flatMap Field.leaves := by
  obtain ⟨a, ha, rfl⟩ := List.mem_map.1 hf
  obtain ⟨field, hfield, hassignment⟩ := List.mem_filterMap.1 ha
  cases field with
  | assignment b =>
    cases hassignment
    exact List.mem_flatMap.2 ⟨_, hfield, a.mem_leaves_of_fieldNumber? hx⟩
  | comment => cases hassignment

/-- The numbers of a block that the ANMI script turns into integers are leaves of the block. -/
theorem Block.mem_leaves_of_anmi {b : Block} {m : Model.Block} (hm : b.lower? = some m)
    (hx : x ∈ Anmi.blockIntegers m) : .number x ∈ b.leaves := by
  cases b with
  | identity b =>
    cases hm
    obtain ⟨f, hf, hx⟩ := List.mem_filterMap.1 hx
    obtain ⟨field, hfield, hlower⟩ := List.mem_filterMap.1 (List.mem_of_mem_filter hf)
    refine List.mem_flatMap.2 ⟨field, hfield, ?_⟩
    cases field with
    | assignment a =>
      cases hlower
      exact a.mem_leaves_of_fieldNumber? hx
    | array a =>
      cases hlower
      cases hx
    | comment => cases hlower
  | characteristics b =>
    cases hm
    obtain ⟨f, hf, hx⟩ := List.mem_filterMap.1 hx
    exact mem_leaves_of_lowerFields hf hx
  | lifecycle =>
    cases hm
    cases hx
  | metadata =>
    cases hm
    cases hx
  | comment => cases hm

/-- The value of a figure is a leaf of the figure, or zero. -/
theorem Metric.written_value (m : Metric) : Written m.leaves m.lower.value := by
  show Written m.leaves ((lastAttribute? m.attributes "value" Expr.number?).getD .zero)
  cases hlast : lastAttribute? m.attributes "value" Expr.number? with
  | none => exact .inl rfl
  | some y =>
    obtain ⟨a, ha, hread⟩ := List.mem_filterMap.1 (List.mem_of_getLast? hlast)
    split at hread
    · have hleaf : .number y ∈ a.leaves := by
        cases hvalue : a.value <;> rw [hvalue] at hread <;> cases hread
        simp [Assignment.leaves, hvalue, Expr.leaves]
      exact .inr (List.mem_cons_of_mem _ (List.mem_flatMap.2 ⟨a, ha, hleaf⟩))
    · cases hread

/-- The figures of data have values that are leaves of the data, or zero. -/
theorem Data.written_value {d : Data} {y : Model.Year} {m : Model.Metric} (hy : y ∈ d.lower.years)
    (hm : m ∈ y.metrics) : Written d.leaves m.value := by
  obtain ⟨year, hyear, rfl⟩ := List.mem_map.1 hy
  obtain ⟨metric, hmetric, rfl⟩ := List.mem_map.1 hm
  obtain ⟨block, hblock, hmetric⟩ := List.mem_flatMap.1 hmetric
  have hblockLeaves : Written block.leaves metric.lower.value := by
    cases block with
    | metrics ms => exact metric.written_value.flatMap hmetric
    | _ => cases hmetric
  have hyearLeaves : Written year.leaves metric.lower.value :=
    (hblockLeaves.flatMap hblock).mono (List.subset_cons_self _ _)
  have hdata : Written (d.blocks.flatMap DataBlock.leaves) metric.lower.value :=
    Written.flatMap (b := DataBlock.year year) hyearLeaves (d.mem_blocks_of_mem_years hyear)
  exact hdata.mono (List.subset_cons_self _ _)

/-- The leaves of a member of a family are leaves of the program. -/
theorem Program.written_of_member {f : Family} {m : FamilyMember} (hf : f ∈ p.families) (hm : m ∈ f.members)
    (h : Written m.leaves x) : Written p.leaves x := by
  obtain ⟨s, hs, hfamily⟩ := List.mem_filterMap.1 hf
  cases s with
  | family g =>
    cases hfamily
    exact Written.flatMap (b := Statement.family f) (h.flatMap hm) hs
  | _ => cases hfamily

/-- The leaves of data, inside the families or outside, are leaves of the program. -/
theorem Program.written_of_data {d : Data} (hd : d ∈ p.allData) (h : Written d.leaves x) : Written p.leaves x := by
  obtain hfamily | hloose := List.mem_append.1 hd
  · obtain ⟨f, hf, hd⟩ := List.mem_flatMap.1 hfamily
    obtain ⟨m, hm, hdata⟩ := List.mem_filterMap.1 hd
    cases m with
    | data e =>
      cases hdata
      exact written_of_member hf hm h
    | _ => cases hdata
  · obtain ⟨s, hs, hdata⟩ := List.mem_filterMap.1 hloose
    cases s with
    | data e =>
      cases hdata
      exact Written.flatMap (b := Statement.data d) h hs
    | _ => cases hdata

/-- The numbers that the ANMI script turns into integers are leaves of the program, or zero. -/
theorem Program.written_of_mem_anmi (h : x ∈ Anmi.integers p.toModel) : Written p.leaves x := by
  obtain houtlet | hmetric := List.mem_append.1 h
  · rw [p.outlets_toModel] at houtlet
    obtain ⟨o, ho, hx⟩ := List.mem_flatMap.1 houtlet
    obtain ⟨source, hsource, rfl⟩ := List.mem_map.1 ho
    obtain ⟨m, hm, hx⟩ := List.mem_flatMap.1 hx
    obtain ⟨b, hb, hlower⟩ := List.mem_filterMap.1 hm
    obtain ⟨f, hf, hsource⟩ := List.mem_flatMap.1 hsource
    obtain ⟨member, hmember, houtlet⟩ := List.mem_filterMap.1 hsource
    cases member with
    | outlet o =>
      cases houtlet
      refine written_of_member hf hmember (.inr (List.mem_append_right _ ?_))
      exact List.mem_flatMap.2 ⟨b, hb, b.mem_leaves_of_anmi hlower hx⟩
    | _ => cases houtlet
  · obtain ⟨m, hm, rfl⟩ := List.mem_map.1 hmetric
    obtain ⟨d, hd, hyears⟩ := List.mem_flatMap.1 (List.mem_of_mem_filter hm)
    obtain ⟨source, hsource, rfl⟩ := Program.exists_of_mem_data hd
    obtain ⟨y, hy, hmetrics⟩ := List.mem_flatMap.1 hyears
    exact written_of_data hsource (source.written_value hy hmetrics)

end Anmi

end Ast

end MediaLanguage

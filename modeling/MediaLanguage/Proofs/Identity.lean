import MediaLanguage.Anmi.Script
import MediaLanguage.Graph.Script
import MediaLanguage.Proofs.Characters
import MediaLanguage.Proofs.Model.Identity
import MediaLanguage.Sql.Script

/-!
# Who an outlet is

The scripts write the numbers of outlets into the column that is the key of a table, or as a property of nodes. The
number of an outlet is optional, and an outlet may give several; validation looks at the names of its fields only. So
a program may pass and still write zero for two outlets, or different numbers for one.

* `writtenIds_eq`, for each of the scripts: the numbers that it writes.
* `nodup_outletIds_iff`: when the numbers of a program that passes are keys. They are not if two outlets give no
  number (`not_nodup_outletIds`).
* `outletIds_scripts`: which number each script writes, and when it is the same. It is not if an outlet gives two
  numbers (`not_outletIds_eq`).
-/

namespace MediaLanguage

/-- What is found in parts of which each has one thing to find. -/
theorem filterMap_flatMap_eq_map {α β γ : Type} {part : α → List β} {find : β → Option γ} {found : α → γ}
    (h : ∀ x, (part x).filterMap find = [found x]) (xs : List α) :
    (xs.flatMap part).filterMap find = xs.map found := by
  rw [List.filterMap_flatMap, List.map_eq_flatMap]
  simp only [h]

/-! ## Numbers in relational scripts -/

namespace Sql

open Model

/-- The integer that a row of a table has in a column. -/
def Statement.integer? (table column : String) : Statement → Option Int
  | .insert i =>
    if i.table = table then
      ((i.columns.zip i.values).lookup column).bind fun
        | .integer k => some k
        | _ => none
    else none
  | _ => none

/-- The integers that the rows of a script have in a column of a table. -/
def Script.integers (table column : String) (s : Script) : List Int :=
  s.filterMap (Statement.integer? table column)

section Integers

variable {table column : String}

@[simp] theorem integer?_comment (text : String) : (Statement.comment text).integer? table column = none := rfl

@[simp] theorem integer?_blank : Statement.blank.integer? table column = none := rfl

theorem integer?_of_ne {other : String} {columns : List String} {values : List Term} {conflict : Conflict}
    (h : other ≠ table) : (Statement.insert ⟨other, columns, values, conflict⟩).integer? table column = none :=
  if_neg h

end Integers

/-- The parts of an outlet have rows in tables of their own. -/
theorem integer?_blockRows {outlet : Int} {b : Block} {s : Statement} (hs : s ∈ blockRows outlet b) :
    s.integer? "media_outlets" "id" = none := by
  cases b <;> obtain ⟨f, -, rfl⟩ := List.mem_map.1 hs <;> exact integer?_of_ne (by decide)

theorem integers_outletScript (family : String) (o : Outlet) :
    (outletScript family o).integers "media_outlets" "id" = [outletId o] := by
  have hrow : (outletRow family o).integer? "media_outlets" "id" = some (outletId o) := rfl
  have hblocks : (o.blocks.flatMap (blockRows (outletId o))).filterMap (Statement.integer? "media_outlets" "id") = [] :=
    List.filterMap_eq_nil_iff.2 (List.forall_mem_flatMap.2 fun _ _ _ => integer?_blockRows)
  simp [Script.integers, outletScript, List.filterMap_cons, hrow, hblocks]

/-- The keys that the families of a model write into the table of outlets. -/
def writtenIds (p : Program) : List Int :=
  Script.integers "media_outlets" "id" (p.families.flatMap familyScript)

/-- The families write the numbers of the outlets of the model, in order. -/
theorem writtenIds_eq (p : Program) : writtenIds p = p.outlets.map outletId := by
  have hfamily : ∀ f : Family, (familyScript f).integers "media_outlets" "id" = f.outlets.map outletId := by
    intro f
    have hrow : (Statement.row "families" ["name", "comment"] [.text f.name, .optional f.comment]).integer?
        "media_outlets" "id" = none := integer?_of_ne (by decide)
    have houtlets := filterMap_flatMap_eq_map (integers_outletScript f.name) f.outlets
    simp [Script.integers, familyScript, List.filterMap_cons, hrow, houtlets]
  rw [writtenIds, Script.integers, List.filterMap_flatMap, Program.outlets, List.map_flatMap]
  exact congrArg (p.families.flatMap ·) (funext hfamily)

end Sql

namespace Anmi

open Model Sql

theorem integer?_sourceScript {p : Program} {s : Statement} (hs : s ∈ sourceScript p) :
    s.integer? (qualified "mo_constant") "id_mo" = none := by
  unfold sourceScript at hs
  split at hs
  · cases hs
  · rw [List.cons_append, List.mem_cons, List.mem_append, List.mem_singleton] at hs
    obtain rfl | hs | rfl := hs
    · rfl
    · obtain ⟨x, -, rfl⟩ := List.mem_map.1 hs
      exact integer?_of_ne (by decide)
    · rfl

theorem integer?_vocabularyScript {v : Vocabulary} {s : Statement} (hs : s ∈ vocabularyScript v) :
    s.integer? (qualified "mo_constant") "id_mo" = none := by
  -- no vocabulary has the table of outlets
  have hothers : ∀ t ∈ vocabularyTables, qualified t.table ≠ qualified "mo_constant" := by decide
  unfold vocabularyScript at hs
  split at hs
  · next t ht =>
    rw [List.cons_append, List.mem_cons, List.mem_append, List.mem_singleton] at hs
    obtain rfl | hs | rfl := hs
    · rfl
    · obtain ⟨e, -, hrow⟩ := List.mem_filterMap.1 hs
      unfold entryRow? at hrow
      split at hrow <;> cases hrow
      exact integer?_of_ne (hothers t (List.mem_of_find?_eq_some ht))
    · rfl
  · cases hs

/-- The keys that a model writes into the table of what does not change about outlets. -/
def writtenIds (p : Program) : List Int :=
  (outletScript p).integers (qualified "mo_constant") "id_mo"

/-- The rows of outlets have the numbers that are gathered for them. -/
theorem writtenIds_eq (p : Program) : writtenIds p = p.outlets.map fun o => (OutletRow.ofOutlet o).id := by
  have hrow : ∀ o : Outlet, (OutletRow.ofOutlet o).statement.integer? (qualified "mo_constant") "id_mo" =
      some (OutletRow.ofOutlet o).id := fun _ => rfl
  have hsources : (sourceScript p).filterMap (Statement.integer? (qualified "mo_constant") "id_mo") = [] :=
    List.filterMap_eq_nil_iff.2 fun _ => integer?_sourceScript
  have hvocabularies : (p.vocabularies.flatMap vocabularyScript).filterMap
      (Statement.integer? (qualified "mo_constant") "id_mo") = [] :=
    List.filterMap_eq_nil_iff.2 (List.forall_mem_flatMap.2 fun _ _ _ => integer?_vocabularyScript)
  simp [writtenIds, Script.integers, outletScript, List.filterMap_cons, List.filterMap_map, hsources, hvocabularies,
    hrow]

end Anmi

/-! ## Numbers in graph scripts -/

namespace Graph

open Model

/-- The integer that a created node of a label has as a property. -/
def Command.integer? (label property : String) : Command → Option Int
  | .create n =>
    if n.label = label then
      (n.properties.lookup property).bind fun
        | .integer k => some k
        | _ => none
    else none
  | _ => none

/-- The integers that the nodes of a script with a label have as a property. -/
def Script.integers (label property : String) (s : Script) : List Int :=
  s.filterMap (Command.integer? label property)

section Integers

variable {label property : String}

@[simp] theorem integer?_comment (text : String) : (Command.comment text).integer? label property = none := rfl

@[simp] theorem integer?_blank : Command.blank.integer? label property = none := rfl

@[simp] theorem integer?_connect (first second : Node) (edge : Edge) :
    (Command.connect first second edge).integer? label property = none := rfl

theorem integer?_of_ne {binder other : String} {properties : Properties} (h : other ≠ label) :
    (Command.create ⟨binder, other, properties⟩).integer? label property = none :=
  if_neg h

theorem integer?_childCommands {binder other edge : String} {parent : Node} {properties key : Properties} {c : Command}
    (h : other ≠ label) (hc : c ∈ childCommands parent ⟨binder, other, properties⟩ key edge) :
    c.integer? label property = none := by
  rw [childCommands, List.mem_pair] at hc
  obtain rfl | rfl := hc
  · exact integer?_of_ne h
  · rfl

end Integers

/-- The parts of an outlet are nodes with labels of their own. -/
theorem integer?_blockCommands {outlet : Int} {b : Block} {c : Command} (hc : c ∈ blockCommands outlet b) :
    c.integer? "Outlet" "id" = none := by
  cases b <;> obtain ⟨f, -, hc⟩ := List.mem_flatMap.1 hc <;> exact integer?_childCommands (by decide) hc

theorem integers_outletScript (family : String) (o : Outlet) :
    (outletScript family o).integers "Outlet" "id" = [outletId o] := by
  have hblocks : (o.blocks.flatMap (blockCommands (outletId o))).filterMap (Command.integer? "Outlet" "id") = [] :=
    List.filterMap_eq_nil_iff.2 (List.forall_mem_flatMap.2 fun _ _ _ => integer?_blockCommands)
  have hnode : ∀ ps : Properties, (Command.create ⟨"o", "Outlet", ("id", .integer (outletId o)) :: ps⟩).integer?
      "Outlet" "id" = some (outletId o) := fun _ => rfl
  simp [Script.integers, outletScript, outletNode, childCommands, List.filterMap_cons, hnode, hblocks]

/-- The numbers of the nodes that the families of a model create for outlets. -/
def writtenIds (p : Program) : List Int :=
  Script.integers "Outlet" "id" (p.families.flatMap familyScript)

/-- The families create nodes with the numbers of the outlets of the model, in order. -/
theorem writtenIds_eq (p : Program) : writtenIds p = p.outlets.map outletId := by
  have hfamily : ∀ f : Family, (familyScript f).integers "Outlet" "id" = f.outlets.map outletId := by
    intro f
    have hnode : (Command.create ⟨"f", "Family", [("name", .text f.name), ("comment", .optional f.comment),
        ("created_at", .now)]⟩).integer? "Outlet" "id" = none := integer?_of_ne (by decide)
    have houtlets := filterMap_flatMap_eq_map (integers_outletScript f.name) f.outlets
    simp [Script.integers, familyScript, familyNode, List.filterMap_cons, hnode, houtlets]
  rw [writtenIds, Script.integers, List.filterMap_flatMap, Program.outlets, List.map_flatMap]
  exact congrArg (p.families.flatMap ·) (funext hfamily)

end Graph

open Ast

/-! ## Numbers as keys -/

section Keys

variable {p : Program} {v : Verdict} {m : Model.Program}

/-- How often a number is written: once for each outlet that has it, and zero also for those without a number. -/
theorem count_outletId (m : Model.Program) (k : Int) :
    (m.outlets.map Sql.outletId).count k =
      m.outletIds.count k + if k = 0 then m.outlets.countP fun o => o.id.isNone else 0 := by
  unfold Model.Program.outletIds
  induction m.outlets with
  | nil => simp
  | cons o os ih =>
    rw [List.map_cons, List.count_cons, ih, List.countP_cons]
    cases hid : o.id with
    | none =>
      rw [List.filterMap_cons_none hid, Sql.outletId, hid]
      by_cases hk : k = 0
      · subst hk
        simp [Nat.add_assoc]
      · have hne : (0 == k) = false := by simpa using Ne.symm hk
        simp [hk, hne]
    | some id =>
      rw [List.filterMap_cons_some hid, Sql.outletId, hid, List.count_cons]
      simp
      omega

/-- In a program that passes no two outlets have the same number. -/
theorem nodup_outletIds (h : p.Passes) : p.toModel.outletIds.Nodup := by
  rw [Model.Program.outletIds, p.outlets_toModel, List.filterMap_map]
  exact nodup_declaredIds h

/-- The numbers of a program that passes are different for outlets that have one, so the keys of the table of outlets
are different exactly if every outlet has a number, or one has none and zero is not the number of another. -/
theorem nodup_outletIds_iff (hv : p.validate = .ok v) (hpassed : v.passed = true) (hm : p.lower = .ok m) :
    m.outletIds.Nodup ∧
      ((Sql.writtenIds m).Nodup ↔
        (∀ o ∈ m.outlets, o.id ≠ none) ∨ (m.outlets.countP fun o => o.id.isNone) = 1 ∧ 0 ∉ m.outletIds) := by
  have hnodup : m.outletIds.Nodup := by
    rw [Program.eq_toModel hm]
    exact nodup_outletIds (passes_of_validate hv hpassed)
  refine ⟨hnodup, ?_⟩
  have hall : (∀ o ∈ m.outlets, o.id ≠ none) ↔ (m.outlets.countP fun o => o.id.isNone) = 0 := by
    simp [List.countP_eq_zero]
  have hzero : 0 ∉ m.outletIds ↔ m.outletIds.count 0 = 0 := List.count_eq_zero.symm
  have hone := List.nodup_iff_count_le_one.1 hnodup
  rw [Sql.writtenIds_eq, List.nodup_iff_count_le_one, hall, hzero]
  -- only zero can be written twice: by the outlet that has it, and by those without a number
  constructor
  · intro h
    have hcount := h 0
    rw [count_outletId, if_pos rfl] at hcount
    omega
  · intro h k
    have hk := hone k
    rw [count_outletId]
    split
    · next hk0 =>
      subst hk0
      omega
    · omega

/-- Three outlets of two families, one of which has a name in the place of its number. -/
def numberedSource : String :=
  "family \"F\" \x7b outlet \"A\" \x7b identity \x7b id = 1; \x7d \x7d "
    ++ "outlet \"B\" \x7b identity \x7b id = \"b\"; \x7d \x7d \x7d "
    ++ "family \"G\" \x7b outlet \"C\" \x7b identity \x7b id = 2; \x7d \x7d \x7d"

/-- One outlet without a number is written as zero, and has that key for itself. -/
theorem nodup_outletIds_numberedSource :
    ∃ p v m, parse numberedSource = .ok p ∧ p.validate = .ok v ∧ v.passed = true ∧ p.lower = .ok m ∧
      m.outletIds = [1, 2] ∧ (Sql.writtenIds m).Nodup := by
  have hsays : ((parse numberedSource).toOption.map fun p =>
      ((Validator.integers p ++ p.integers).all Number.isFinite, (Validator.run {} p).verdict.passed,
        p.toModel.outletIds, p.toModel.outlets.countP fun o => o.id.isNone)) =
      some (true, true, [1, 2], 1) := by
    have hchars : numberedSource.toList = _ :=
      toList_append_of (toList_append_of String.toList_ofList String.toList_ofList) String.toList_ofList
    rw [parse_of_toList hchars]
    decide +kernel
  obtain ⟨p, v, hp, hv, hpassed, hm, hsaid⟩ := exists_model_of_source hsays
  obtain ⟨hids, hnone⟩ := Prod.mk.inj hsaid
  have hkeys := (nodup_outletIds_iff hv hpassed hm).2
  exact ⟨p, v, _, hp, hv, hpassed, hm, hids, hkeys.2 (.inr ⟨hnone, by simp [hids]⟩)⟩

/-- Two outlets with names in the place of their numbers. -/
def unnumberedSource : String :=
  "FAMILY \"F\" \x7b OUTLET \"A\" \x7b identity \x7b id = \"a\"; \x7d; \x7d; "
    ++ "OUTLET \"B\" \x7b identity \x7b id = \"b\"; \x7d; \x7d; \x7d"

/-- Not every text whose program passes has different keys for its outlets. -/
theorem not_nodup_outletIds :
    ¬∀ source p v m, parse source = .ok p → p.validate = .ok v → v.passed = true → p.lower = .ok m →
      (Sql.writtenIds m).Nodup := by
  intro hkeys
  have hsays : ((parse unnumberedSource).toOption.map fun p =>
      ((Validator.integers p ++ p.integers).all Number.isFinite, (Validator.run {} p).verdict.passed,
        Sql.writtenIds p.toModel)) = some (true, true, [0, 0]) := by
    have hchars : unnumberedSource.toList = _ := toList_append_of String.toList_ofList String.toList_ofList
    rw [parse_of_toList hchars]
    decide +kernel
  obtain ⟨p, v, hp, hv, hpassed, hm, hids⟩ := exists_model_of_source hsays
  have hnodup := hkeys _ p v _ hp hv hpassed hm
  rw [hids] at hnodup
  exact absurd hnodup (by decide)

end Keys

/-! ## Numbers that agree -/

section Agreement

variable {p : Program} {m : Model.Program}

/-- The table of outlets and the nodes of the graph have the number of the model, which is the first that an outlet
gives; the rows of outlets have the last. They are the same for an outlet whose fields agree. -/
theorem outletIds_scripts (hm : p.lower = .ok m) :
    Sql.writtenIds m = m.outlets.map (fun o => o.id.getD 0) ∧
      Graph.writtenIds m = m.outlets.map (fun o => o.id.getD 0) ∧
      Anmi.writtenIds m = m.outlets.map (fun o => o.lastId?.getD 0) ∧
      ∀ o ∈ m.outlets, o.id = o.firstId? ∧ (o.HasOneId → o.id = o.lastId?) := by
  have hlowered : ∀ o ∈ m.outlets, ∃ source : Outlet, source.lower = o := by
    intro o ho
    rw [Program.eq_toModel hm, p.outlets_toModel] at ho
    obtain ⟨source, -, hsource⟩ := List.mem_map.1 ho
    exact ⟨source, hsource⟩
  refine ⟨Sql.writtenIds_eq m, Graph.writtenIds_eq m, ?_, ?_⟩
  · rw [Anmi.writtenIds_eq]
    refine List.map_congr_left fun o ho => ?_
    obtain ⟨source, rfl⟩ := hlowered o ho
    exact Anmi.OutletRow.id_ofOutlet_lower source
  · intro o ho
    obtain ⟨source, rfl⟩ := hlowered o ho
    refine ⟨source.id_lower, fun hagree => ?_⟩
    rw [source.id_lower, Model.Outlet.firstId?_eq_lastId? hagree]

/-- An outlet that gives its number twice, the second time with a fraction. -/
def repeatedSource : String :=
  "family \"F\" \x7b outlet \"A\" \x7b identity \x7b id = 3; \x7d identity \x7b id = 3.5; \x7d \x7d \x7d"

/-- Both times it is the same integer, and all scripts write it. -/
theorem outletIds_repeatedSource :
    ∃ p v m, parse repeatedSource = .ok p ∧ p.validate = .ok v ∧ v.passed = true ∧ p.lower = .ok m ∧
      m.outlets.map (fun o => o.idFields.map Model.Assignment.integer?) = [[some 3, some 3]] ∧
      ∀ o ∈ m.outlets, o.id = o.lastId? := by
  have hsays : ((parse repeatedSource).toOption.map fun p =>
      ((Validator.integers p ++ p.integers).all Number.isFinite, (Validator.run {} p).verdict.passed,
        p.toModel.outlets.map fun o => o.idFields.map Model.Assignment.integer?)) =
      some (true, true, [[some 3, some 3]]) := by
    have hchars : repeatedSource.toList = _ := String.toList_ofList
    rw [parse_of_toList hchars]
    decide +kernel
  obtain ⟨p, v, hp, hv, hpassed, hm, hids⟩ := exists_model_of_source hsays
  refine ⟨p, v, _, hp, hv, hpassed, hm, hids, fun o ho => ?_⟩
  have hfields : o.idFields.map Model.Assignment.integer? = [some 3, some 3] := by
    have hmem := List.mem_map_of_mem (f := fun o : Model.Outlet => o.idFields.map Model.Assignment.integer?) ho
    rw [hids] at hmem
    exact List.mem_singleton.1 hmem
  have hthree : ∀ f ∈ o.idFields, f.integer? = some 3 := by
    intro f hf
    have hmem := List.mem_map_of_mem (f := Model.Assignment.integer?) hf
    rw [hfields] at hmem
    simpa using hmem
  obtain ⟨-, -, -, hagree⟩ := outletIds_scripts hm
  exact (hagree o ho).2 fun f hf g hg => by rw [hthree f hf, hthree g hg]

/-- An outlet that gives two numbers. -/
def renumberedSource : String :=
  "FAMILY \"F\" \x7b OUTLET \"A\" \x7b identity \x7b id = 1; id = 2; \x7d; \x7d; \x7d"

/-- Not every text whose program passes has the same numbers in all scripts. -/
theorem not_outletIds_eq :
    ¬∀ source p v m, parse source = .ok p → p.validate = .ok v → v.passed = true → p.lower = .ok m →
      Anmi.writtenIds m = Sql.writtenIds m ∧ Anmi.writtenIds m = Graph.writtenIds m := by
  intro hequal
  have hsays : ((parse renumberedSource).toOption.map fun p =>
      ((Validator.integers p ++ p.integers).all Number.isFinite, (Validator.run {} p).verdict.passed,
        Anmi.writtenIds p.toModel, Sql.writtenIds p.toModel)) = some (true, true, [2], [1]) := by
    have hchars : renumberedSource.toList = _ := String.toList_ofList
    rw [parse_of_toList hchars]
    decide +kernel
  obtain ⟨p, v, hp, hv, hpassed, hm, hids⟩ := exists_model_of_source hsays
  obtain ⟨hrows, htable⟩ := Prod.mk.inj hids
  have heq := (hequal _ p v _ hp hv hpassed hm).1
  rw [hrows, htable] at heq
  exact absurd heq (by decide)

end Agreement

end MediaLanguage

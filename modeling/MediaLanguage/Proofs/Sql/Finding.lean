import MediaLanguage.Proofs.Sql.Action
import MediaLanguage.Proofs.Sql.Lookup

/-!
# Lookups that are read

A reader finds lookups in the rows of a text, and the rows in front of them that have what they look up. In the text of
a script that can be read these are the lookups of the script, and they find as many rows (`readFinds_render`).
-/

namespace MediaLanguage.Sql

/-! ## Rows that are read -/

/-- The lookup that a value is. -/
def Cell.lookup? : Cell → Option Lookup
  | .lookup table column value => some ⟨table, column, value⟩
  | _ => none

/-- The values that a clause sets. -/
def Clause.cells : Clause → List Cell
  | .fail | .skip => []
  | .update _ changes => changes.map Prod.snd

/-- The lookups in a row and its clause. -/
def lookupsIn (inserted : Row × Clause) : List Lookup :=
  (inserted.1.cells.map Prod.snd ++ inserted.2.cells).filterMap Cell.lookup?

/-- Whether a lookup finds a row. -/
def Row.carries (q : Lookup) (r : Row) : Bool :=
  r.table == q.table && r.value? q.column == some (.text q.value)

/-- The lookups of rows behind others, each with the number of rows in front of it that it finds. -/
def findsIn (before : List Row) : List (Row × Clause) → List (Lookup × Nat)
  | [] => []
  | x :: xs => (lookupsIn x).map (fun q => (q, before.countP (Row.carries q))) ++ findsIn (before ++ [x.1]) xs

/-- The lookups of a text, each with the number of rows in front of it that it finds. -/
def readFinds (text : String) : List (Lookup × Nat) :=
  findsIn [] (insertions text)

/-! ## Rows of scripts -/

section Rows

variable {i : Insert} {q : Lookup}

@[simp] theorem lookup?_cell (t : Term) : t.cell.lookup? = t.lookup? := by
  cases t <;> rfl

theorem cell_eq_text_iff {t : Term} {s : String} : t.cell = .text s ↔ t = .text s := by
  cases t <;> simp [Term.cell, Cell.integer]

/-- The value of a row that is read is read from the value of the row. -/
theorem value?_row (i : Insert) (column : String) :
    i.row.value? column = ((i.columns.zip i.values).lookup column).map Term.cell := by
  unfold Row.value? Insert.row
  generalize i.columns = columns
  generalize i.values = values
  induction columns generalizing values with
  | nil => rfl
  | cons c columns ih =>
    cases values with
    | nil => rfl
    | cons t values =>
      rw [List.map_cons, List.zip_cons_cons, List.zip_cons_cons, List.lookup_cons, List.lookup_cons]
      by_cases hc : column = c
      · simp [hc]
      · simpa [beq_false_of_ne hc] using ih values

/-- The lookups in a row are read in it. -/
theorem lookupsIn_row (h : i.columns.length = i.values.length) :
    lookupsIn (i.row, i.conflict.clause) = (Statement.insert i).lookups := by
  have hcells : i.row.cells.map Prod.snd = i.values.map Term.cell := by
    rw [Insert.row, List.map_snd_zip]
    simp [h]
  have hclause : i.conflict.clause.cells = i.conflict.terms.map Term.cell := by
    cases i.conflict <;> simp [Conflict.clause, Clause.cells, Conflict.terms]
  rw [lookupsIn, hcells, hclause, ← List.map_append, List.filterMap_map]
  simp [Statement.lookups]

/-- A lookup finds a row as it is read. -/
theorem carries_row (i : Insert) (q : Lookup) : i.row.carries q = (Statement.insert i).carries q := by
  have htext : ((i.columns.zip i.values).lookup q.column).map Term.cell == some (.text q.value) ↔
      (i.columns.zip i.values).lookup q.column == some (.text q.value) := by
    cases (i.columns.zip i.values).lookup q.column <;> simp [cell_eq_text_iff]
  rw [Row.carries, value?_row, Statement.carries, Bool.eq_iff_iff, Bool.and_eq_true, Bool.and_eq_true, htext]
  rfl

end Rows

/-! ## Scripts -/

section Scripts

variable {s : Script}

/-- The row that a statement inserts, as it is read. -/
def Statement.insertion? (st : Statement) : Option (Row × Clause) :=
  st.action?.bind Action.insert?

theorem countP_carries (s : Script) (q : Lookup) :
    ((s.filterMap Statement.insertion?).map Prod.fst).countP (Row.carries q) = s.rows q := by
  induction s with
  | nil => rfl
  | cons st s ih =>
    rw [rows_cons, ← ih]
    cases st with
    | insert i =>
      have hsome : Statement.insertion? (.insert i) = some (i.row, i.conflict.clause) := rfl
      rw [List.filterMap_cons_some hsome, List.map_cons, List.countP_cons, carries_row, Nat.add_comm]
    | comment | blank | createSchema | createTable =>
      rw [List.filterMap_cons_none rfl]
      exact (Nat.zero_add _).symm

theorem findsIn_insertions (before : Script) (h : ∀ st ∈ s, st.IsReadable) :
    findsIn ((before.filterMap Statement.insertion?).map Prod.fst) (s.filterMap Statement.insertion?) =
      Script.finds before s := by
  induction s generalizing before with
  | nil => rfl
  | cons st s ih =>
    obtain ⟨hst, hs⟩ := List.forall_mem_cons.1 h
    rw [Script.finds, ← ih (before ++ [st]) hs, List.filterMap_append, List.map_append]
    cases st with
    | insert i =>
      have hsome : Statement.insertion? (.insert i) = some (i.row, i.conflict.clause) := rfl
      simp only [List.filterMap_cons_some hsome, findsIn, lookupsIn_row hst.1.length, countP_carries]
      rfl
    | comment | blank | createSchema | createTable =>
      rw [List.filterMap_cons_none rfl, List.filterMap_cons_none rfl, List.filterMap_nil, List.map_nil, List.append_nil]
      rfl

/-- The lookups that are read in the text of a script are those of the script, and they find as many rows. -/
theorem readFinds_render (h : ∀ st ∈ s, st.IsReadable) : readFinds s.render = Script.finds [] s := by
  rw [readFinds, insertions_render h]
  exact findsIn_insertions [] h

end Scripts

end MediaLanguage.Sql

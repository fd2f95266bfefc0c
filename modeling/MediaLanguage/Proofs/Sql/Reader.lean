import MediaLanguage.Proofs.Sql.Outline
import MediaLanguage.Proofs.Text.Scanner

/-!
# Reading rows back

A script is read as a database reads it: into words, delimiters and literals, in which two quotes stand for one. A
statement that inserts a row is read into the table and the named values of the row.

* `Closed`: parts of a statement in which every parenthesis is closed, so that one in front of them is closed behind.
* `Insert.reads_row` and `Insert.readInsert?_rowAtoms`: a row is found again in what its statement is read as.
-/

namespace MediaLanguage.Sql

open Dialect

/-- How SQL is written. -/
def dialect : Dialect where
  toLexis := lexis
  delimiters := ['(', ')', ',', ';', '=']
  shield := '\''
  delimiters_apart := @of_decide_eq_true _ (List.decidableBAll _ _) rfl

/-- The text is read as the atoms, and nothing of it is left. -/
abbrev Spelled (s : String) (as : List Atom) : Prop :=
  dialect.Spelled s as

/-- The text is read as the atoms in front of a blank or delimiter. -/
abbrev Reads (s : String) (as : List Atom) : Prop :=
  dialect.Reads s as

/-- A literal is read as its text, whatever that holds. -/
theorem reads_quote (s : String) : Reads (quote s) [.literal s] := by
  refine reads_literal (fun c => ?_) s
  by_cases hc : c = '\''
  · subst hc
    exact .inr ⟨rfl, rfl⟩
  · exact .inl ⟨if_neg hc, hc, hc⟩

/-! ## Rows -/

/-- A value of a row as it is read. -/
inductive Cell where
  | missing
  /-- A value without quotes, as it is written. -/
  | number (text : String)
  | text (value : String)
  /-- The `id` of the row of `table` that has `value` in `column`. -/
  | lookup (table column value : String)
deriving DecidableEq

/-- A row as it is read: a table, and the value of each column that the row names. -/
structure Row where
  table : String
  cells : List (String × Cell)
deriving DecidableEq

/-- The value that a row has in a column. -/
def Row.value? (row : Row) (column : String) : Option Cell :=
  row.cells.lookup column

/-- The value that stands between two commas. -/
def Cell.read? : List Atom → Option Cell
  | [.word written] => some (if written = "NULL" then .missing else .number written)
  | [.literal value] => some (.text value)
  | [.delimiter '(', .word "SELECT", .word "id", .word "FROM", .word table, .word "WHERE", .word column,
      .delimiter '=', .literal value, .delimiter ')'] => some (.lookup table column value)
  | _ => none

def readName? : List Atom → Option String
  | [.word text] => some text
  | _ => none

/-- What stands in front of the parenthesis that closes the one that is open, and what follows it; `depth` more are
open. -/
def closing? : Nat → List Atom → Option (List Atom × List Atom)
  | _, [] => none
  | depth, .delimiter '(' :: as => (closing? (depth + 1) as).map (Prod.map (.delimiter '(' :: ·) id)
  | 0, .delimiter ')' :: as => some ([], as)
  | depth + 1, .delimiter ')' :: as => (closing? depth as).map (Prod.map (.delimiter ')' :: ·) id)
  | depth, a :: as => (closing? depth as).map (Prod.map (a :: ·) id)

/-- Columns and values, if there are equally many. -/
def Row.make? (table : String) (columns : List String) (cells : List Cell) : Option Row :=
  if columns.length = cells.length then some ⟨table, columns.zip cells⟩ else none

/-- The row that a statement inserts, and what follows its values. -/
def Row.readInsert? : List Atom → Option (Row × List Atom)
  | .word "INSERT" :: .word "INTO" :: .word table :: .delimiter '(' :: as => do
    let (columns, as) ← closing? 0 as
    match as with
    | .word "VALUES" :: .delimiter '(' :: as => do
      let (values, rest) ← closing? 0 as
      let names ← (listed columns).mapM readName?
      let cells ← (listed values).mapM Cell.read?
      let row ← Row.make? table names cells
      return (row, rest)
    | _ => none
  | _ => none

/-- The row that a statement without a clause inserts. -/
def Row.read? (as : List Atom) : Option Row :=
  match Row.readInsert? as with
  | some (row, []) => some row
  | _ => none

/-- The rows that a text inserts, if it does nothing else and its last statement is finished. -/
def readRows (s : String) : Option (List Row) :=
  dialect.readAll Row.read? s

/-! ## Values -/

/-- An integer as it is written. -/
def Cell.integer (k : Int) : Cell :=
  .number (toString k)

namespace Term

/-- What a value is read as. -/
def atoms : Term → List Atom
  | .null => [.word "NULL"]
  | .integer value => [.word (toString value)]
  | .number value => [.word value.text]
  | .text value => [.literal value]
  | .lookup table column value =>
    [.delimiter '(', .word "SELECT", .word "id", .word "FROM", .word table, .word "WHERE", .word column, .delimiter '=',
      .literal value, .delimiter ')']

def cell : Term → Cell
  | .null => .missing
  | .integer value => .integer value
  | .number value => .number value.text
  | .text value => .text value
  | .lookup table column value => .lookup table column value

/-- The table and column of a reference are names. -/
def HasNames : Term → Prop
  | .lookup table column _ => IsName table ∧ IsName column
  | _ => True

@[simp] theorem hasNames_integer (k : Int) : (integer k).HasNames := trivial

@[simp] theorem hasNames_number (x : Number) : (number x).HasNames := trivial

@[simp] theorem hasNames_text (s : String) : (text s).HasNames := trivial

@[simp] theorem hasNames_ofValue (v : Model.Value) : (ofValue v).HasNames := trivial

@[simp] theorem hasNames_optional (s : Option String) : (optional s).HasNames := by
  cases s <;> trivial

@[simp] theorem hasNames_optionalInteger (k : Option Int) : (optionalInteger k).HasNames := by
  cases k <;> trivial

@[simp] theorem hasNames_optionalNumber (x : Option Number) : (optionalNumber x).HasNames := by
  cases x <;> trivial

theorem reads_render {t : Term} (h : t.HasNames) : Reads t.render t.atoms := by
  cases t with
  | null => exact reads_name (by decide)
  | integer k => exact reads_numeral (isNumeral_integer k)
  | number x => exact reads_numeral x.isNumeral_text
  | text s => exact reads_quote s
  | lookup table column s =>
    obtain ⟨htable, hcolumn⟩ := h
    have hselect : Spelled "(SELECT id FROM " [.delimiter '(', .word "SELECT", .word "id", .word "FROM"] := by decide
    have hwhere : Spelled " WHERE " [.word "WHERE"] := by decide
    have hequals : Spelled " = " [.delimiter '='] := by decide
    have hclose : Spelled ")" [.delimiter ')'] := by decide
    have hfrom := (Reads.append hselect (reads_name htable)).before rfl rfl hwhere
    have hkey := (Reads.append hfrom (reads_name hcolumn)).before rfl rfl hequals
    exact ((Reads.append hkey (reads_quote s)).before rfl rfl hclose).reads

theorem read?_atoms (t : Term) : Cell.read? t.atoms = some t.cell := by
  cases t with
  | null => rfl
  | integer k => exact congrArg some (if_neg (isNumeral_integer k).ne_null.1)
  | number x => exact congrArg some (if_neg x.isNumeral_text.ne_null.1)
  | text s => rfl
  | lookup table column s => rfl

/-- No comma or semicolon outside a literal belongs to a value. -/
theorem not_mem_atoms (t : Term) {c : Char} (h : c = ',' ∨ c = ';') : .delimiter c ∉ t.atoms := by
  obtain rfl | rfl := h <;> cases t <;> simp [atoms]

end Term

/-! ## Parentheses -/

/-- Every parenthesis that is opened is closed, and no other: the parts leave open what is open in front of them. -/
def Closed (as : List Atom) : Prop :=
  ∀ depth bs, closing? depth (as ++ bs) = (closing? depth bs).map (Prod.map (as ++ ·) id)

section Closed

variable {as bs : List Atom}

theorem closed_nil : Closed [] := by
  intro depth bs
  rw [List.nil_append]
  cases closing? depth bs <;> rfl

theorem Closed.append (h : Closed as) (h' : Closed bs) : Closed (as ++ bs) := by
  intro depth cs
  rw [List.append_assoc, h, h', Option.map_map]
  congr 1
  funext x
  exact congrArg (·, x.2) (List.append_assoc ..).symm

/-- A part that is no parenthesis. -/
theorem closed_singleton {a : Atom} (hopen : a ≠ .delimiter '(') (hclose : a ≠ .delimiter ')') : Closed [a] := by
  intro depth bs
  rw [List.singleton_append, closing?]
  · rfl
  · rintro rfl
    exact hopen rfl
  · intro _ h
    exact hclose h
  · intro _ _ h
    exact hclose h

/-- Parts none of which is a parenthesis. -/
theorem closed_of_forall (h : ∀ a ∈ as, a ≠ .delimiter '(' ∧ a ≠ .delimiter ')') : Closed as := by
  induction as with
  | nil => exact closed_nil
  | cons a as ih =>
    obtain ⟨ha, has⟩ := List.forall_mem_cons.1 h
    exact (closed_singleton ha.1 ha.2).append (ih has)

/-- Parts in parentheses. -/
theorem Closed.parenthesized (h : Closed as) : Closed (Atom.delimiter '(' :: as ++ [Atom.delimiter ')']) := by
  intro depth bs
  simp only [List.cons_append, List.append_assoc, List.nil_append, closing?, h (depth + 1), Option.map_map]
  rfl

/-- What stands in front of the parenthesis that closes. -/
theorem closing?_append (h : Closed as) : closing? 0 (as ++ Atom.delimiter ')' :: bs) = some (as, bs) := by
  rw [h, closing?, Option.map_some, Prod.map, List.append_nil, id]

end Closed

/-- No parenthesis of a value is left open. -/
theorem Term.closed_atoms (t : Term) : Closed t.atoms := by
  cases t with
  | lookup table column value =>
    have hquery : Closed [.word "SELECT", .word "id", .word "FROM", .word table, .word "WHERE", .word column,
        .delimiter '=', .literal value] := closed_of_forall (by simp)
    exact hquery.parenthesized
  | _ => exact closed_of_forall (by simp [atoms])

/-! ## Lists -/

/-- A list with commas is read item by item. -/
theorem reads_commas {α : Type} {text : α → String} {as : α → List Atom} {xs : List α}
    (h : ∀ x ∈ xs, Reads (text x) (as x)) : Reads (commas (xs.map text)) (listAtoms (xs.map as)) :=
  reads_list (by decide) h

theorem closed_listAtoms {items : List (List Atom)} (h : ∀ as ∈ items, Closed as) : Closed (listAtoms items) := by
  induction items with
  | nil => exact closed_nil
  | cons as items ih =>
    obtain ⟨has, hitems⟩ := List.forall_mem_cons.1 h
    cases items with
    | nil => simpa [listAtoms] using has
    | cons bs items =>
      have hrest := ih hitems
      have hcomma : Closed [.delimiter ','] := closed_of_forall (by simp)
      simp only [listAtoms, List.intercalate_cons_cons] at hrest ⊢
      exact (has.append hcomma).append hrest

/-- Names with commas between them. -/
def nameAtoms (names : List String) : List Atom :=
  listAtoms (names.map fun s => [.word s])

section Names

variable {names : List String}

theorem reads_names (h : ∀ s ∈ names, IsName s) : Reads (commas names) (nameAtoms names) := by
  have hnames : Reads (commas (names.map id)) (nameAtoms names) := reads_commas fun s hs => reads_name (h s hs)
  rwa [List.map_id] at hnames

theorem closed_nameAtoms : Closed (nameAtoms names) :=
  closed_listAtoms (List.forall_mem_map.2 fun s _ => closed_of_forall (by simp))

theorem readNames_nameAtoms (hne : names ≠ []) : (listed (nameAtoms names)).mapM readName? = some names := by
  rw [nameAtoms, listed_listAtoms (by simpa using hne) (by simp)]
  have hread : (names.map fun s => [Atom.word s]).mapM readName? = some (names.map id) :=
    mapM_map_eq_some fun s _ => rfl
  rwa [List.map_id] at hread

theorem semicolon_notMem_nameAtoms : .delimiter ';' ∉ nameAtoms names :=
  not_mem_listAtoms (by decide) (by simp)

end Names

/-! ## Rows -/

namespace Insert

/-- The row can be read: its names are names, and it has a value for each of its columns. -/
structure IsReadable (i : Insert) : Prop where
  table : IsName i.table
  columns : ∀ s ∈ i.columns, IsName s
  values : ∀ t ∈ i.values, t.HasNames
  length : i.columns.length = i.values.length
  ne_nil : i.columns ≠ []

def valueAtoms (i : Insert) : List Atom :=
  listAtoms (i.values.map Term.atoms)

/-- What the statement for a row is read as, up to its clause. -/
def rowAtoms (i : Insert) : List Atom :=
  [Atom.word "INSERT", .word "INTO", .word i.table, .delimiter '('] ++ nameAtoms i.columns
    ++ [Atom.delimiter ')', .word "VALUES", .delimiter '('] ++ i.valueAtoms ++ [Atom.delimiter ')']

def row (i : Insert) : Row :=
  ⟨i.table, i.columns.zip (i.values.map Term.cell)⟩

variable {i : Insert}

theorem reads_row (h : i.IsReadable) :
    Spelled ("INSERT INTO " ++ i.table ++ " (" ++ commas i.columns ++ ") VALUES (" ++ commas (i.values.map Term.render)
      ++ ")") i.rowAtoms := by
  have hinsert : Spelled "INSERT INTO " [.word "INSERT", .word "INTO"] := by decide
  have hopen : Spelled " (" [.delimiter '('] := by decide
  have hvalues : Spelled ") VALUES (" [.delimiter ')', .word "VALUES", .delimiter '('] := by decide
  have hclose : Spelled ")" [.delimiter ')'] := by decide
  have hterms : Reads (commas (i.values.map Term.render)) i.valueAtoms :=
    reads_commas fun t ht => Term.reads_render (h.values t ht)
  have htable := (Reads.append hinsert (reads_name h.table)).before rfl rfl hopen
  have hhead := (Reads.append htable (reads_names h.columns)).before rfl rfl hvalues
  exact (Reads.append hhead hterms).before rfl rfl hclose

/-- A row is found again in what its statement is read as, whatever clause follows. -/
theorem readInsert?_rowAtoms (h : i.IsReadable) (rest : List Atom) :
    Row.readInsert? (i.rowAtoms ++ rest) = some (i.row, rest) := by
  have hcells : (listed i.valueAtoms).mapM Cell.read? = some (i.values.map Term.cell) := by
    have hne : i.values ≠ [] := by
      intro hnil
      have hlength := h.length
      rw [hnil] at hlength
      exact h.ne_nil (List.length_eq_zero_iff.1 hlength)
    have hno : ∀ as ∈ i.values.map Term.atoms, .delimiter ',' ∉ as := by
      simpa using fun t _ => t.not_mem_atoms (.inl rfl)
    rw [valueAtoms, listed_listAtoms (by simpa using hne) hno]
    exact mapM_map_eq_some fun t _ => t.read?_atoms
  have hclosed : Closed i.valueAtoms := closed_listAtoms (List.forall_mem_map.2 fun t _ => t.closed_atoms)
  have hmake : Row.make? i.table i.columns (i.values.map Term.cell) = some i.row := by
    simp [Row.make?, row, h.length]
  simp only [rowAtoms, List.append_assoc, List.cons_append, List.nil_append]
  simp [Row.readInsert?, closing?_append closed_nameAtoms, closing?_append hclosed, readNames_nameAtoms h.ne_nil,
    hcells, hmake]

/-- No semicolon outside a literal belongs to a row. -/
theorem not_mem_rowAtoms (i : Insert) : .delimiter ';' ∉ i.rowAtoms := by
  have hvalues : .delimiter ';' ∉ i.valueAtoms := by
    refine not_mem_listAtoms (by decide) ?_
    simpa using fun t _ => t.not_mem_atoms (.inr rfl)
  simp [rowAtoms, semicolon_notMem_nameAtoms, hvalues]

end Insert

end MediaLanguage.Sql

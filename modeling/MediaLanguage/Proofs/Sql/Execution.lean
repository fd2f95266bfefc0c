import Mathlib.Logic.Function.Basic
import MediaLanguage.Proofs.Sql.Action

/-!
# What statements do to a database

A database has tables by their names, and a table has rows: a value for every column. A statement defines a table or
adds a row. A row whose key is there already is refused, left out, or changes the row that is there, as its clause says.
Values are compared as they are written. A script is executed statement by statement, and a text as it is read.

* `run_render`: the text of a script that can be read does what the script does.
* `execute_append`: a script in two parts.
* `execute_script_frame`: a script leaves the tables alone that it is not about.
* `Script.insertsInto` and `readInserts`: the rows that a script or a text inserts into one table.
* `keyIn_of_mem`: behind a script that only adds rows to a table the keys of its rows are there, so that a row is left
  out or refused when it comes again (`Insert.KeyIn.execute_skip`, `Insert.KeyIn.execute_fail`).
* `Repeats.append`, `repeats_of_isSteady`: a script that comes again, part by part; only rows without a clause are
  refused.
-/

namespace MediaLanguage.Sql

/-! ## Rows -/

/-- A row: a value for every column of its table, in the order of the columns. -/
abbrev Tuple := List (String × Cell)

namespace Tuple

/-- The value of a column. -/
def value (r : Tuple) (column : String) : Cell :=
  (r.lookup column).getD .missing

/-- The values of some columns. -/
def values (r : Tuple) (columns : List String) : List Cell :=
  columns.map r.value

/-- The row with a value for every column. -/
def ofValues (columns : List String) (value : String → Cell) : Tuple :=
  columns.map fun c => (c, value c)

/-- The row after some columns are set. -/
def set (r : Tuple) (changes : List (String × Cell)) : Tuple :=
  r.map fun (column, old) => (column, (changes.lookup column).getD old)

end Tuple

/-- The row with a value for every column of its table: a column without a value is missing. -/
def Row.tuple (row : Row) (columns : List String) : Tuple :=
  .ofValues columns fun c => (row.cells.lookup c).getD .missing

section Rows

variable {columns : List String} {value : String → Cell} {column : String}

theorem value_ofValues (h : column ∈ columns) : (Tuple.ofValues columns value).value column = value column := by
  unfold Tuple.value Tuple.ofValues
  induction columns with
  | nil => cases h
  | cons c columns ih =>
    rw [List.map_cons, List.lookup_cons]
    by_cases hc : column = c
    · subst hc
      rw [beq_self_eq_true]
      rfl
    · rw [beq_false_of_ne hc]
      exact ih ((List.mem_cons.1 h).resolve_left hc)

theorem values_ofValues {some : List String} (h : ∀ c ∈ some, c ∈ columns) :
    (Tuple.ofValues columns value).values some = some.map value :=
  List.map_congr_left fun c hc => value_ofValues (h c hc)

theorem set_ofValues (changes : List (String × Cell)) :
    (Tuple.ofValues columns value).set changes =
      Tuple.ofValues columns fun c => (changes.lookup c).getD (value c) := by
  unfold Tuple.set Tuple.ofValues
  rw [List.map_map]
  rfl

theorem ofValues_congr {other : String → Cell} (h : ∀ c ∈ columns, value c = other c) :
    Tuple.ofValues columns value = Tuple.ofValues columns other := by
  refine List.map_congr_left fun c hc => ?_
  rw [h c hc]

end Rows

/-! ## Tables -/

/-- A table of a database. -/
structure Relation where
  columns : List String
  key : List String
  rows : List Tuple := []
deriving DecidableEq

/-- A table that is just defined. -/
def Table.empty (t : Table) : Relation where
  columns := t.columns
  key := t.key

namespace Relation

/-- Whether a row of the table has some values in some columns. -/
def holds (r : Relation) (columns : List String) (values : List Cell) : Bool :=
  r.rows.any fun row => row.values columns == values

/-- The table with one more row. -/
def add (r : Relation) (row : Tuple) : Relation :=
  { r with rows := r.rows ++ [row] }

/-- The table after a change of the rows that have some values in some columns. -/
def change (r : Relation) (columns : List String) (values : List Cell) (changes : List (String × Cell)) : Relation :=
  { r with rows := r.rows.map fun row => if row.values columns = values then row.set changes else row }

/-- The table after an insertion; a row is refused if its key is there and no clause says what to do. -/
def insert? (r : Relation) (row : Row) (clause : Clause) : Option Relation :=
  let tuple := row.tuple r.columns
  let clash := r.holds r.key (tuple.values r.key)
  match clause with
  | .fail => if clash then none else some (r.add tuple)
  | .skip => if clash then some r else some (r.add tuple)
  | .update target changes =>
    if r.holds target (tuple.values target) then some (r.change target (tuple.values target) changes)
    else if clash then none
    else some (r.add tuple)

/-- A row that changes the row with its primary key is never refused. -/
theorem insert?_of_update (r : Relation) (row : Row) (changes : List (String × Cell)) :
    r.insert? row (.update r.key changes) = some (if r.holds r.key ((row.tuple r.columns).values r.key) then
      r.change r.key ((row.tuple r.columns).values r.key) changes else r.add (row.tuple r.columns)) := by
  simp only [insert?]
  split <;> rfl

end Relation

/-! ## Databases -/

/-- The tables of a database. -/
abbrev Database := String → Option Relation

/-- Why a statement is refused. -/
inductive Refusal where
  | missingTable (table : String)
  | existingTable (table : String)
  /-- The primary key of a row is there already. -/
  | existingKey (table : String)
deriving DecidableEq

/-- The database after what a statement asks for. -/
def Action.execute (db : Database) : Action → Except Refusal Database
  | .defineSchema _ => .ok db
  | .defineTable onlyIfMissing name columns key =>
    match db name with
    | none => .ok (Function.update db name (some { columns, key }))
    | some _ => if onlyIfMissing then .ok db else .error (.existingTable name)
  | .insert row clause =>
    match db row.table with
    | none => .error (.missingTable row.table)
    | some r =>
      match r.insert? row clause with
      | some r' => .ok (Function.update db row.table (some r'))
      | none => .error (.existingKey row.table)

/-- The database after a statement; comments and blank lines leave it as it is. -/
def Statement.execute (db : Database) (st : Statement) : Except Refusal Database :=
  match st.action? with
  | none => .ok db
  | some a => a.execute db

/-- The database after a script; the first statement that is refused ends it. -/
def Script.execute (s : Script) (db : Database) : Except Refusal Database :=
  s.foldlM Statement.execute db

/-- The database after a text, if the text can be read; the first statement that is refused ends it. -/
def run (text : String) (db : Database) : Option (Except Refusal Database) :=
  (readActions text).map fun actions => actions.foldlM Action.execute db

/-- A step and a next one that is not refused. -/
theorem bind_eq_ok_iff {α β : Type} {x : Except Refusal α} {f : α → Except Refusal β} {y : β} :
    (x >>= f) = .ok y ↔ ∃ a, x = .ok a ∧ f a = .ok y := by
  constructor
  · intro h
    cases x with
    | error e => cases h
    | ok a => exact ⟨a, rfl, h⟩
  · rintro ⟨a, rfl, h⟩
    exact h

section Scripts

variable {db db' : Database} {a b s : Script} {st : Statement}

@[simp] theorem execute_nil : Script.execute [] db = .ok db := rfl

theorem execute_cons : Script.execute (st :: s) db = (st.execute db >>= Script.execute s) := rfl

/-- A script in two parts. -/
theorem execute_append : Script.execute (a ++ b) db = (Script.execute a db >>= Script.execute b) :=
  List.foldlM_append

theorem execute_cons_eq_ok :
    Script.execute (st :: s) db = .ok db' ↔ ∃ next, st.execute db = .ok next ∧ Script.execute s next = .ok db' :=
  bind_eq_ok_iff

theorem execute_append_eq_ok :
    Script.execute (a ++ b) db = .ok db' ↔
      ∃ next, Script.execute a db = .ok next ∧ Script.execute b next = .ok db' := by
  rw [execute_append, bind_eq_ok_iff]

/-- A script does what its statements ask for, one after the other. -/
theorem foldlM_actions : (s.filterMap Statement.action?).foldlM Action.execute db = Script.execute s db := by
  induction s generalizing db with
  | nil => rfl
  | cons st s ih =>
    rw [execute_cons, Statement.execute]
    cases ha : st.action? with
    | none => exact (congrArg (·.foldlM Action.execute db) (List.filterMap_cons_none ha)).trans ih
    | some a =>
      rw [List.filterMap_cons_some ha, List.foldlM_cons]
      exact congrArg (a.execute db >>= ·) (funext fun next => ih)

/-- The text of a script that can be read does what the script does. -/
theorem run_render (h : ∀ st ∈ s, st.IsUnderstood) : run s.render db = some (Script.execute s db) := by
  rw [run, readActions_render h, Option.map_some, foldlM_actions]

end Scripts

/-! ## One table of a database -/

/-- The table that a statement is about. -/
def Statement.table? : Statement → Option String
  | .createTable _ t => some t.name
  | .insert i => some i.table
  | .comment _ | .blank | .createSchema _ => none

section Tables

variable {db db' : Database} {s : Script} {st : Statement} {table : String} {r : Relation}

/-- What an insertion does. -/
theorem execute_insert {i : Insert} {r' : Relation} (htable : db i.table = some r)
    (h : r.insert? i.row i.conflict.clause = some r') :
    (Statement.insert i).execute db = .ok (Function.update db i.table (some r')) := by
  have htable' : db i.row.table = some r := htable
  simp only [Statement.execute, Statement.action?, Action.execute, htable', h]
  rfl

/-- An insertion that is not refused finds its table. -/
theorem exists_of_execute_insert {i : Insert} (h : (Statement.insert i).execute db = .ok db') :
    ∃ r r', db i.table = some r ∧ r.insert? i.row i.conflict.clause = some r' ∧
      db' = Function.update db i.table (some r') := by
  simp only [Statement.execute, Statement.action?, Action.execute] at h
  split at h
  · cases h
  · next r hr =>
    split at h
    · next r' hr' =>
      cases h
      exact ⟨r, r', hr, hr', rfl⟩
    · cases h

/-- A statement leaves the other tables as they are. -/
theorem execute_frame (h : st.execute db = .ok db') (hother : st.table? ≠ some table) : db' table = db table := by
  cases st with
  | comment | blank | createSchema =>
    cases h
    rfl
  | createTable onlyIfMissing t =>
    have hne : table ≠ t.name := fun heq => hother (congrArg some heq.symm)
    simp only [Statement.execute, Statement.action?, Action.execute] at h
    split at h
    · cases h
      exact Function.update_of_ne hne _ _
    · split at h
      · cases h
        rfl
      · cases h
  | insert i =>
    have hne : table ≠ i.table := fun heq => hother (congrArg some heq.symm)
    obtain ⟨r, r', -, -, rfl⟩ := exists_of_execute_insert h
    exact Function.update_of_ne hne _ _

/-- A script leaves the other tables as they are. -/
theorem execute_script_frame (h : Script.execute s db = .ok db') (hother : ∀ st ∈ s, st.table? ≠ some table) :
    db' table = db table := by
  induction s generalizing db with
  | nil =>
    cases h
    rfl
  | cons st s ih =>
    obtain ⟨next, hfirst, hrest⟩ := execute_cons_eq_ok.1 h
    obtain ⟨hst, hs⟩ := List.forall_mem_cons.1 hother
    rw [ih hrest hs, execute_frame hfirst hst]

end Tables

/-! ## The rows of one table -/

/-- The value that an insertion gives a column. -/
def Insert.value? (i : Insert) (column : String) : Option Term :=
  (i.columns.zip i.values).lookup column

/-- The insertion into a table that a statement is. -/
def Statement.insertInto? (table : String) : Statement → Option Insert
  | .insert i => if i.table = table then some i else none
  | _ => none

/-- The insertions of a script into a table, in order. -/
def Script.insertsInto (table : String) (s : Script) : List Insert :=
  s.filterMap (Statement.insertInto? table)

/-- The row that an action inserts into a table, with its clause. -/
def Action.insertInto? (table : String) : Action → Option (Row × Clause)
  | .insert row clause => if row.table = table then some (row, clause) else none
  | _ => none

/-- The rows that a text inserts into a table, with their clauses, if the text can be read. -/
def readInserts (table text : String) : Option (List (Row × Clause)) :=
  (readActions text).map (·.filterMap (Action.insertInto? table))

section Inserts

variable {a b s : Script} {table : String}

/-- The rows that the text of a script inserts into a table are those that the script inserts. -/
theorem readInserts_render (h : ∀ st ∈ s, st.IsUnderstood) :
    readInserts table s.render = some ((Script.insertsInto table s).map fun i => (i.row, i.conflict.clause)) := by
  have hinsert : ∀ st : Statement, st.action?.bind (Action.insertInto? table) =
      (st.insertInto? table).map fun i => (i.row, i.conflict.clause) := by
    intro st
    cases st with
    | insert i => by_cases htable : i.table = table <;> simp [Statement.action?, Action.insertInto?, Insert.row,
        Statement.insertInto?, htable]
    | _ => rfl
  rw [readInserts, readActions_render h, Option.map_some, Script.insertsInto, List.map_filterMap,
    List.filterMap_filterMap]
  simp only [hinsert]

theorem insertsInto_append :
    Script.insertsInto table (a ++ b) = Script.insertsInto table a ++ Script.insertsInto table b :=
  List.filterMap_append

/-- A script that is not about a table inserts no rows into it. -/
theorem insertsInto_eq_nil (h : ∀ st ∈ s, st.table? ≠ some table) : Script.insertsInto table s = [] := by
  refine List.filterMap_eq_nil_iff.2 fun st hst => ?_
  cases st with
  | insert i => exact if_neg fun htable => h _ hst (congrArg some htable)
  | _ => rfl

end Inserts

/-! ## Keys that stay -/

/-- A table that has all the keys of another, with the same columns. -/
structure Relation.Extends (r r' : Relation) : Prop where
  columns : r'.columns = r.columns
  key : r'.key = r.key
  holds : ∀ values, r.holds r.key values = true → r'.holds r.key values = true

theorem Relation.Extends.refl (r : Relation) : r.Extends r :=
  ⟨rfl, rfl, fun _ h => h⟩

theorem Relation.Extends.trans {a b c : Relation} (h : a.Extends b) (h' : b.Extends c) : a.Extends c where
  columns := h'.columns.trans h.columns
  key := h'.key.trans h.key
  holds values hvalues := by
    have hb := h'.holds values
    rw [h.key] at hb
    exact hb (h.holds values hvalues)

/-- A statement that does not change rows of a table. -/
def Statement.Adds (table : String) : Statement → Prop
  | .insert i => i.table = table → ∀ target changes, i.conflict.clause ≠ .update target changes
  | _ => True

section Growth

variable {db db' : Database} {s : Script} {st : Statement} {table : String} {r r' : Relation} {i : Insert}

@[simp] theorem holds_add (r : Relation) (row : Tuple) (columns : List String) (values : List Cell) :
    (r.add row).holds columns values = (r.holds columns values || row.values columns == values) := by
  simp [Relation.holds, Relation.add]

theorem extends_add (r : Relation) (row : Tuple) : r.Extends (r.add row) := by
  refine ⟨rfl, rfl, fun values h => ?_⟩
  rw [holds_add, h]
  rfl

/-- A row that is added, or left out because its key is there, leaves a table that has the key. -/
theorem extends_of_insert? {row : Row} {clause : Clause} (hadds : ∀ target changes, clause ≠ .update target changes)
    (h : r.insert? row clause = some r') :
    r.Extends r' ∧ r'.holds r.key ((row.tuple r.columns).values r.key) = true := by
  have hadded : (r.add (row.tuple r.columns)).holds r.key ((row.tuple r.columns).values r.key) = true := by
    rw [holds_add, beq_self_eq_true, Bool.or_true]
  unfold Relation.insert? at h
  cases clause with
  | fail =>
    dsimp only at h
    split at h
    · cases h
    · cases h
      exact ⟨extends_add r _, hadded⟩
  | skip =>
    dsimp only at h
    split at h
    · next hclash =>
      cases h
      exact ⟨.refl r, hclash⟩
    · cases h
      exact ⟨extends_add r _, hadded⟩
  | update target changes => exact absurd rfl (hadds target changes)

/-- A statement that only adds to a table keeps it, with its keys. -/
theorem extends_of_execute (hadds : st.Adds table) (h : st.execute db = .ok db') (hr : db table = some r) :
    ∃ r', db' table = some r' ∧ r.Extends r' := by
  by_cases hother : st.table? = some table
  · cases st with
    | comment | blank | createSchema => cases hother
    | createTable onlyIfMissing t =>
      obtain rfl := Option.some.inj hother
      simp only [Statement.execute, Statement.action?, Action.execute] at h
      rw [hr] at h
      dsimp only at h
      split at h
      · cases h
        exact ⟨r, hr, .refl r⟩
      · cases h
    | insert i =>
      obtain rfl := Option.some.inj hother
      obtain ⟨found, r', hfound, hinsert, rfl⟩ := exists_of_execute_insert h
      obtain rfl := Option.some.inj (hfound.symm.trans hr)
      exact ⟨r', Function.update_self .., (extends_of_insert? (hadds rfl) hinsert).1⟩
  · exact ⟨r, (execute_frame h hother).trans hr, .refl r⟩

/-- A script that only adds to a table keeps it, with its keys. -/
theorem extends_of_execute_script (hadds : ∀ st ∈ s, st.Adds table) (h : Script.execute s db = .ok db')
    (hr : db table = some r) : ∃ r', db' table = some r' ∧ r.Extends r' := by
  induction s generalizing db r with
  | nil =>
    cases h
    exact ⟨r, hr, .refl r⟩
  | cons st s ih =>
    obtain ⟨next, hfirst, hrest⟩ := execute_cons_eq_ok.1 h
    obtain ⟨hst, hs⟩ := List.forall_mem_cons.1 hadds
    obtain ⟨r', hr', hextends⟩ := extends_of_execute hst hfirst hr
    obtain ⟨r'', hr'', hextends'⟩ := ih hs hrest hr'
    exact ⟨r'', hr'', hextends.trans hextends'⟩

/-- The table of a row has the key of the row. -/
def Insert.KeyIn (i : Insert) (db : Database) : Prop :=
  ∃ r, db i.table = some r ∧ r.holds r.key ((i.row.tuple r.columns).values r.key) = true

/-- Behind a script that only adds to a table the keys are there that were there in front of it. -/
theorem Insert.KeyIn.execute (hkey : i.KeyIn db) (hadds : ∀ st ∈ s, st.Adds i.table)
    (h : Script.execute s db = .ok db') : i.KeyIn db' := by
  obtain ⟨r, hr, hholds⟩ := hkey
  obtain ⟨r', hr', hextends⟩ := extends_of_execute_script hadds h hr
  refine ⟨r', hr', ?_⟩
  rw [hextends.key, hextends.columns]
  exact hextends.holds _ hholds

/-- Behind a script that only adds to a table the keys of its rows are there. -/
theorem keyIn_of_mem (hadds : ∀ st ∈ s, st.Adds i.table) (h : Script.execute s db = .ok db')
    (hi : Statement.insert i ∈ s) : i.KeyIn db' := by
  obtain ⟨before, behind, rfl⟩ := List.append_of_mem hi
  obtain ⟨first, -, hrest⟩ := execute_append_eq_ok.1 h
  obtain ⟨next, hinsert, hbehind⟩ := execute_cons_eq_ok.1 hrest
  have hadd : (Statement.insert i).Adds i.table := hadds _ (List.mem_append_right _ List.mem_cons_self)
  obtain ⟨r, r', -, hr', rfl⟩ := exists_of_execute_insert hinsert
  obtain ⟨hextends, hholds⟩ := extends_of_insert? (hadd rfl) hr'
  have hkey : i.KeyIn (Function.update first i.table (some r')) := by
    refine ⟨r', Function.update_self .., ?_⟩
    rw [hextends.key, hextends.columns]
    exact hholds
  exact hkey.execute (fun st hst => hadds st (List.mem_append_right _ (List.mem_cons_of_mem _ hst))) hbehind

/-- A row that is left out if its key is there. -/
theorem Insert.KeyIn.execute_skip (hkey : i.KeyIn db) (hskip : i.conflict = .skip) :
    (Statement.insert i).execute db = .ok db := by
  obtain ⟨r, hr, hholds⟩ := hkey
  have hsame : r.insert? i.row i.conflict.clause = some r := by
    simp only [Relation.insert?, hskip, Conflict.clause, hholds, if_true]
  rw [execute_insert hr hsame, Function.update_eq_self_iff.2 hr.symm]

/-- A row that is refused if its key is there. -/
theorem Insert.KeyIn.execute_fail (hkey : i.KeyIn db) (hfail : i.conflict = .fail) :
    (Statement.insert i).execute db = .error (.existingKey i.table) := by
  obtain ⟨r, hr, hholds⟩ := hkey
  have hr' : db i.row.table = some r := hr
  have hnone : r.insert? i.row i.conflict.clause = none := by
    simp only [Relation.insert?, hfail, Conflict.clause, hholds, if_true]
  simp only [Statement.execute, Statement.action?, Action.execute, hr', hnone]
  rfl

end Growth

/-! ## Scripts that come again -/

/-- The table of a row without a clause for a key that is there already. -/
def Statement.plain? : Statement → Option String
  | .insert { table, conflict := .fail, .. } => some table
  | _ => none

/-- A statement that can come again behind itself: what is there already is left out or refused, not changed. -/
def Statement.isSteady : Statement → Bool
  | .createTable onlyIfMissing _ => onlyIfMissing
  | .insert { conflict := .update .., .. } => false
  | _ => true

/-- The outcome of a script on a database that has all its tables and rows: the first row without a clause is
refused. -/
def Script.again (s : Script) (db : Database) : Except Refusal Database :=
  match s.findSome? Statement.plain? with
  | none => .ok db
  | some table => .error (.existingKey table)

/-- A script comes again: it is refused at its first row without a clause, and without such rows it changes nothing. -/
structure Repeats (db : Database) (s : Script) : Prop where
  whole : Script.execute s db = Script.again s db
  rest : Script.execute (s.filter fun st => st.plain?.isNone) db = .ok db

section Repetition

variable {start db db' : Database} {a b s : Script} {st : Statement} {table : String}

/-- A script without plain rows that changes nothing. -/
theorem repeats_of_execute (hplain : ∀ st ∈ s, st.plain? = none) (h : Script.execute s db = .ok db) : Repeats db s := by
  have hnone : s.findSome? Statement.plain? = none := List.findSome?_eq_none_iff.2 hplain
  have hfilter : (s.filter fun st => st.plain?.isNone) = s := by
    rw [List.filter_eq_self]
    intro st hst
    rw [hplain st hst]
    rfl
  refine ⟨?_, ?_⟩
  · rw [h, Script.again, hnone]
  · rw [hfilter, h]

theorem Repeats.append (ha : Repeats db a) (hb : Repeats db b) : Repeats db (a ++ b) := by
  constructor
  · rw [execute_append, ha.whole]
    unfold Script.again
    rw [List.findSome?_append]
    cases a.findSome? Statement.plain? with
    | none => exact hb.whole
    | some table => rfl
  · rw [List.filter_append]
    exact execute_append_eq_ok.2 ⟨db, ha.rest, hb.rest⟩

/-- A row without a clause whose key is there. -/
theorem repeats_singleton_of_refused (hplain : st.plain? = some table)
    (h : st.execute db = .error (.existingKey table)) : Repeats db [st] := by
  constructor
  · rw [execute_cons, h, Script.again, List.findSome?_cons, hplain]
    rfl
  · rw [List.filter_cons_of_neg (by rw [hplain]; exact Bool.false_ne_true), List.filter_nil, execute_nil]

theorem repeats_of_forall (h : ∀ st ∈ s, Repeats db [st]) : Repeats db s := by
  induction s with
  | nil => exact repeats_of_execute (fun st hst => by cases hst) rfl
  | cons st s ih =>
    obtain ⟨hfirst, hrest⟩ := List.forall_mem_cons.1 h
    exact hfirst.append (ih hrest)

/-- A steady statement only adds to every table. -/
theorem adds_of_isSteady (h : st.isSteady) (table : String) : st.Adds table := by
  cases st with
  | insert i =>
    rintro - target changes hclause
    obtain ⟨_, _, _, conflict⟩ := i
    cases conflict with
    | fail | skip => cases hclause
    | update => cases h
  | comment | blank | createSchema | createTable => trivial

/-- A statement takes no table away. -/
theorem isSome_of_execute (h : st.execute db = .ok db') (hthere : (db table).isSome) : (db' table).isSome := by
  by_cases hother : st.table? = some table
  · cases st with
    | comment | blank | createSchema => cases hother
    | createTable onlyIfMissing t =>
      simp only [Statement.execute, Statement.action?, Action.execute] at h
      split at h
      · next hnone =>
        obtain rfl := Option.some.inj hother
        rw [hnone] at hthere
        cases hthere
      · split at h
        · cases h
          exact hthere
        · cases h
    | insert i =>
      obtain rfl := Option.some.inj hother
      obtain ⟨r, r', -, -, rfl⟩ := exists_of_execute_insert h
      rw [Function.update_self]
      rfl
  · rw [execute_frame h hother]
    exact hthere

theorem isSome_of_execute_script (h : Script.execute s db = .ok db') (hthere : (db table).isSome) :
    (db' table).isSome := by
  induction s generalizing db with
  | nil =>
    cases h
    exact hthere
  | cons st s ih =>
    obtain ⟨next, hfirst, hrest⟩ := execute_cons_eq_ok.1 h
    exact ih hrest (isSome_of_execute hfirst hthere)

/-- Behind a script the tables are there that it defines. -/
theorem isSome_of_mem {onlyIfMissing : Bool} {t : Table} (h : Script.execute s db = .ok db')
    (ht : Statement.createTable onlyIfMissing t ∈ s) : (db' t.name).isSome := by
  obtain ⟨before, behind, rfl⟩ := List.append_of_mem ht
  obtain ⟨first, -, hrest⟩ := execute_append_eq_ok.1 h
  obtain ⟨next, hcreate, hbehind⟩ := execute_cons_eq_ok.1 hrest
  refine isSome_of_execute_script hbehind ?_
  simp only [Statement.execute, Statement.action?, Action.execute] at hcreate
  split at hcreate
  · cases hcreate
    rw [Function.update_self]
    rfl
  · next r hr =>
    split at hcreate
    · cases hcreate
      rw [hr]
      rfl
    · cases hcreate

/-- A steady statement behind a script that has it, and that only adds to its table. -/
theorem repeats_of_isSteady (hsteady : st.isSteady) (h : Script.execute s start = .ok db) (hst : st ∈ s)
    (hadds : ∀ i, st = .insert i → ∀ other ∈ s, other.Adds i.table) : Repeats db [st] := by
  have hsettled : st.plain? = none → st.execute db = .ok db → Repeats db [st] := by
    intro hplain hsame
    refine repeats_of_execute (fun other hother => ?_) (execute_cons_eq_ok.2 ⟨db, hsame, rfl⟩)
    rw [List.mem_singleton.1 hother, hplain]
  cases st with
  | comment | blank | createSchema => exact hsettled rfl rfl
  | createTable onlyIfMissing t =>
    obtain rfl : onlyIfMissing = true := hsteady
    obtain ⟨r, hr⟩ := Option.isSome_iff_exists.1 (isSome_of_mem h hst)
    refine hsettled rfl ?_
    simp only [Statement.execute, Statement.action?, Action.execute, hr, if_true]
  | insert i =>
    have hkey : i.KeyIn db := keyIn_of_mem (hadds i rfl) h hst
    obtain ⟨table, columns, values, conflict⟩ := i
    cases conflict with
    | fail => exact repeats_singleton_of_refused rfl (hkey.execute_fail rfl)
    | skip => exact hsettled rfl (hkey.execute_skip rfl)
    | update target changes => cases hsteady

end Repetition

end MediaLanguage.Sql

import Mathlib.Data.List.Basic
import MediaLanguage.Proofs.Sql.Reader

/-!
# Reading statements back

What a statement asks of a database is read in its text: to define a schema or a table, or to insert a row, with a
clause for a row whose key is there already. Comments and blank lines ask for nothing.

* `Statement.IsReadable`: the names of a statement are names and its comments stand on one line, so that it is read as
  it is meant (`Statement.spelled_render`).
* `statements_render`: the statements that are read in the text of a script are those of the script.
* `readActions_render`: what the text of a script asks for is what its statements ask for.
* `readRows_render`: in the text of a script of rows the rows are read.
-/

namespace MediaLanguage.Sql

open Dialect

/-! ## Actions -/

/-- What to do with a row whose key is already there, as it is read. -/
inductive Clause where
  | fail
  | skip
  | update (key : List String) (changes : List (String × Cell))
deriving DecidableEq

/-- What a statement asks for, as it is read. -/
inductive Action where
  | defineSchema (name : String)
  | defineTable (onlyIfMissing : Bool) (name : String) (columns key : List String)
  | insert (row : Row) (clause : Clause)
deriving DecidableEq

/-- The columns of a table. -/
def Table.columns (t : Table) : List String :=
  t.items.filterMap fun
    | .column c => some c.name
    | _ => none

/-- The columns that make up the primary key of a table. -/
def Table.key (t : Table) : List String :=
  t.items.flatMap fun
    | .column c => if c.primaryKey then [c.name] else []
    | .primaryKey columns => columns
    | .foreignKey .. => []

def Conflict.clause : Conflict → Clause
  | .fail => .fail
  | .skip => .skip
  | .update key changes => .update key (changes.map fun change => (change.1, change.2.cell))

/-- What a statement asks for. -/
def Statement.action? : Statement → Option Action
  | .comment _ | .blank => none
  | .createSchema name => some (.defineSchema name)
  | .createTable onlyIfMissing t => some (.defineTable onlyIfMissing t.name t.columns t.key)
  | .insert i => some (.insert i.row i.conflict.clause)

/-- The row that an action inserts, with its clause. -/
def Action.insert? : Action → Option (Row × Clause)
  | .insert row clause => some (row, clause)
  | _ => none

/-! ## Reading actions -/

/-- The column that a clause sets, and its value. -/
def readChange? : List Atom → Option (String × Cell)
  | .word column :: .delimiter '=' :: value => (Cell.read? value).map (column, ·)
  | _ => none

/-- The clause of a statement that inserts a row: what follows the values. -/
def Clause.read? : List Atom → Option Clause
  | [] => some .fail
  | [.word "ON", .word "CONFLICT", .word "DO", .word "NOTHING"] => some .skip
  | .word "ON" :: .word "CONFLICT" :: .delimiter '(' :: as => do
    let (key, as) ← closing? 0 as
    match as with
    | .word "DO" :: .word "UPDATE" :: .word "SET" :: changes => do
      let names ← (listed key).mapM readName?
      let changes ← (listed changes).mapM readChange?
      return .update names changes
    | _ => none
  | _ => none

/-- The parts between the commas that stand in no parentheses; `depth` are open. -/
def topLevel : Nat → List Atom → List (List Atom)
  | _, [] => [[]]
  | 0, .delimiter ',' :: as => [] :: topLevel 0 as
  | depth, .delimiter '(' :: as => (topLevel (depth + 1) as).modifyHead (.delimiter '(' :: ·)
  | depth, .delimiter ')' :: as => (topLevel (depth - 1) as).modifyHead (.delimiter ')' :: ·)
  | depth, a :: as => (topLevel depth as).modifyHead (a :: ·)

/-- The columns that an item of a table defines, and those that it makes the key. -/
def readItem? : List Atom → Option (List String × List String)
  | .word "PRIMARY" :: .word "KEY" :: .delimiter '(' :: as =>
    match closing? 0 as with
    | some (names, []) => ((listed names).mapM readName?).map ([], ·)
    | _ => none
  | .word "FOREIGN" :: .word "KEY" :: _ => some ([], [])
  | .word name :: as =>
    some ([name], if (as.zip as.tail).contains (.word "PRIMARY", .word "KEY") then [name] else [])
  | _ => none

/-- The definition of a table: its items, up to the end of the statement. -/
def readTable? (onlyIfMissing : Bool) (name : String) (as : List Atom) : Option Action :=
  match closing? 0 as with
  | some (items, []) => ((topLevel 0 items).mapM readItem?).map fun parts =>
    .defineTable onlyIfMissing name (parts.flatMap Prod.fst) (parts.flatMap Prod.snd)
  | _ => none

/-- What a statement asks for. -/
def Action.read? : List Atom → Option Action
  | [.word "CREATE", .word "SCHEMA", .word "IF", .word "NOT", .word "EXISTS", .word name] => some (.defineSchema name)
  | .word "CREATE" :: .word "TABLE" :: .word "IF" :: .word "NOT" :: .word "EXISTS" :: .word name ::
      .delimiter '(' :: as =>
    readTable? true name as
  | .word "CREATE" :: .word "TABLE" :: .word name :: .delimiter '(' :: as => readTable? false name as
  | as => do
    let (row, rest) ← Row.readInsert? as
    let clause ← Clause.read? rest
    return .insert row clause

/-- What the statements of a text ask for, if the last of them is finished. -/
def readActions (s : String) : Option (List Action) :=
  dialect.readAll Action.read? s

/-! ## Phrases -/

/-- The text can stand among words: it leaves no literal or comment open, and does not end a statement. -/
structure IsPhrase (s : String) : Prop where
  whole : (dialect.run .start s.toList).2.isWhole
  semicolon : .delimiter ';' ∉ dialect.atoms s

instance (s : String) : Decidable (IsPhrase s) :=
  decidable_of_iff ((dialect.run .start s.toList).2.isWhole ∧ .delimiter ';' ∉ dialect.atoms s)
    ⟨fun ⟨whole, semicolon⟩ => ⟨whole, semicolon⟩, fun h => ⟨h.whole, h.semicolon⟩⟩

theorem IsPhrase.reads {s : String} (h : IsPhrase s) : Reads s (dialect.atoms s) :=
  reads_of_isWhole h.whole

section Parts

variable {s t : String} {as bs : List Atom}

/-- What is read by itself can stand among words. -/
theorem isPhrase_of_spelled (h : Spelled s as) (hno : .delimiter ';' ∉ as) : IsPhrase s where
  whole := by
    rw [h]
    rfl
  semicolon := atoms_of_spelled h ▸ hno

/-- A text behind which another may follow. -/
theorem Reads.followedIf (h : Reads s as) (condition : Bool) {c : Char} {cs : List Char} (ht : t.toList = c :: cs)
    (hc : dialect.isBreak c) (h' : Reads t bs) :
    Reads (s ++ if condition then t else "") (as ++ if condition then bs else []) := by
  cases condition with
  | true => exact h.followed ht hc h'
  | false => simpa using h

end Parts

/-! ## Clauses -/

namespace Conflict

def atoms : Conflict → List Atom
  | .fail => []
  | .skip => [.word "ON", .word "CONFLICT", .word "DO", .word "NOTHING"]
  | .update key changes =>
    [Atom.word "ON", .word "CONFLICT", .delimiter '('] ++ nameAtoms key
      ++ [Atom.delimiter ')', .word "DO", .word "UPDATE", .word "SET"]
      ++ listAtoms (changes.map fun change => Atom.word change.1 :: .delimiter '=' :: change.2.atoms)

/-- The names in a clause are names. -/
def IsReadable : Conflict → Prop
  | .update key changes =>
    key ≠ [] ∧ changes ≠ [] ∧ (∀ s ∈ key, IsName s) ∧ ∀ change ∈ changes, IsName change.1 ∧ change.2.HasNames
  | _ => True

variable {c : Conflict}

/-- A clause starts with a blank if it is there. -/
theorem reads_behind (h : c.IsReadable) {s : String} {as : List Atom} (hs : Reads s as) :
    Reads (s ++ c.render) (as ++ c.atoms) := by
  cases c with
  | fail =>
    show Reads (s ++ "") (as ++ [])
    rwa [String.append_empty, List.append_nil]
  | skip => exact hs.followed rfl rfl (by decide : Reads " ON CONFLICT DO NOTHING" _)
  | update key changes =>
    obtain ⟨-, -, hkey, hchanges⟩ := h
    have hopen : Spelled " ON CONFLICT (" [.word "ON", .word "CONFLICT", .delimiter '('] := by decide
    have hset : Spelled ") DO UPDATE SET " [.delimiter ')', .word "DO", .word "UPDATE", .word "SET"] := by decide
    have hvalues : Reads (commas (changes.map fun change => change.1 ++ " = " ++ change.2.render))
        (listAtoms (changes.map fun change => Atom.word change.1 :: .delimiter '=' :: change.2.atoms)) := by
      refine reads_commas fun change hchange => ?_
      obtain ⟨hcolumn, hvalue⟩ := hchanges change hchange
      have hequals : Spelled " = " [.delimiter '='] := by decide
      exact Reads.append ((reads_name hcolumn).before rfl rfl hequals) (Term.reads_render hvalue)
    have hclause := Reads.append ((Reads.append hopen (reads_names hkey)).before rfl rfl hset) hvalues
    have hblank : (" ON CONFLICT (" ++ commas key ++ ") DO UPDATE SET "
        ++ commas (changes.map fun change => change.1 ++ " = " ++ change.2.render)).toList =
        ' ' :: ("ON CONFLICT (" ++ commas key ++ ") DO UPDATE SET "
          ++ commas (changes.map fun change => change.1 ++ " = " ++ change.2.render)).toList := by
      simp [String.toList_append]
    exact hs.followed hblank rfl hclause

/-- A clause is found again in what it is read as. -/
theorem read?_atoms (h : c.IsReadable) : Clause.read? c.atoms = some c.clause := by
  cases c with
  | fail => rfl
  | skip => rfl
  | update key changes =>
    obtain ⟨hkey, hne, -, -⟩ := h
    have hno : ∀ as ∈ changes.map fun change => Atom.word change.1 :: .delimiter '=' :: change.2.atoms,
        Atom.delimiter ',' ∉ as := by
      refine List.forall_mem_map.2 fun change _ => ?_
      simpa using change.2.not_mem_atoms (.inl rfl)
    have hchanges : (listed (listAtoms (changes.map fun change =>
        .word change.1 :: .delimiter '=' :: change.2.atoms))).mapM readChange? =
        some (changes.map fun change => (change.1, change.2.cell)) := by
      rw [listed_listAtoms (by simpa using hne) hno]
      refine mapM_map_eq_some fun change _ => ?_
      rw [readChange?, change.2.read?_atoms]
      rfl
    simp only [atoms, List.append_assoc, List.cons_append, List.nil_append]
    simp [Clause.read?, closing?_append closed_nameAtoms, readNames_nameAtoms hkey, hchanges, clause]

/-- No semicolon outside a literal belongs to a clause. -/
theorem not_mem_atoms (c : Conflict) : .delimiter ';' ∉ c.atoms := by
  cases c with
  | update key changes =>
    have hvalues : .delimiter ';' ∉ listAtoms (changes.map fun change =>
        .word change.1 :: .delimiter '=' :: change.2.atoms) := by
      refine not_mem_listAtoms (by decide) (List.forall_mem_map.2 fun change _ => ?_)
      simpa using change.2.not_mem_atoms (.inr rfl)
    simp [atoms, semicolon_notMem_nameAtoms, hvalues]
  | _ => simp [atoms]

end Conflict

/-! ## Tables -/

/-- The names of a column are names, its type and default are phrases, and the comment after it stands on one line. -/
structure Column.IsReadable (c : Column) : Prop where
  name : IsName c.name
  type : IsPhrase c.type
  default : ∀ d ∈ c.default, IsPhrase d
  remark : ∀ r ∈ c.remark, OneLine r

def Column.atoms (c : Column) : List Atom :=
  [Atom.word c.name] ++ dialect.atoms c.type ++ (if c.primaryKey then [Atom.word "PRIMARY", .word "KEY"] else [])
    ++ (if c.notNull then [Atom.word "NOT", .word "NULL"] else [])
    ++ (c.default.map fun d => Atom.word "DEFAULT" :: dialect.atoms d).getD []

namespace TableItem

def IsReadable : TableItem → Prop
  | .column c => c.IsReadable
  | .primaryKey columns => ∀ s ∈ columns, IsName s
  | .foreignKey key table target => IsName key ∧ IsName table ∧ IsName target

def atoms : TableItem → List Atom
  | .column c => c.atoms
  | .primaryKey columns =>
    [Atom.word "PRIMARY", .word "KEY", .delimiter '('] ++ nameAtoms columns ++ [Atom.delimiter ')']
  | .foreignKey key table target =>
    [.word "FOREIGN", .word "KEY", .delimiter '(', .word key, .delimiter ')', .word "REFERENCES", .word table,
      .delimiter '(', .word target, .delimiter ')']

end TableItem

/-- The names of a table are names, and its items can be read. -/
structure Table.IsReadable (t : Table) : Prop where
  name : IsName t.name
  items : ∀ item ∈ t.items, item.IsReadable

/-- What the definition of a table is read as, up to the semicolon. -/
def Table.atoms (onlyIfMissing : Bool) (t : Table) : List Atom :=
  [Atom.word "CREATE", .word "TABLE"] ++ (if onlyIfMissing then [Atom.word "IF", .word "NOT", .word "EXISTS"] else [])
    ++ [Atom.word t.name, .delimiter '('] ++ listAtoms (t.items.map TableItem.atoms) ++ [Atom.delimiter ')']

section Decidable

instance (c : Column) : Decidable c.IsReadable :=
  decidable_of_iff (IsName c.name ∧ IsPhrase c.type ∧ (∀ d ∈ c.default, IsPhrase d) ∧ ∀ r ∈ c.remark, OneLine r)
    ⟨fun ⟨name, type, default, remark⟩ => ⟨name, type, default, remark⟩, fun h => ⟨h.name, h.type, h.default, h.remark⟩⟩

instance : DecidablePred TableItem.IsReadable
  | .column c => inferInstanceAs (Decidable c.IsReadable)
  | .primaryKey columns => inferInstanceAs (Decidable (∀ s ∈ columns, IsName s))
  | .foreignKey key table target => inferInstanceAs (Decidable (IsName key ∧ IsName table ∧ IsName target))

instance (t : Table) : Decidable t.IsReadable :=
  decidable_of_iff (IsName t.name ∧ ∀ item ∈ t.items, item.IsReadable)
    ⟨fun ⟨name, items⟩ => ⟨name, items⟩, fun h => ⟨h.name, h.items⟩⟩

end Decidable

theorem Column.reads_definition {c : Column} (h : c.IsReadable) : Reads c.definition c.atoms := by
  have hblank : Spelled " " [] := by decide
  have hname : Reads (c.name ++ " " ++ c.type) ([Atom.word c.name] ++ dialect.atoms c.type) := by
    have hstart := (reads_name h.name).before rfl rfl hblank
    exact Reads.append hstart h.type.reads
  have hkey := (hname.followedIf c.primaryKey rfl rfl
    (by decide : Reads " PRIMARY KEY" [.word "PRIMARY", .word "KEY"])).followedIf c.notNull rfl rfl
    (by decide : Reads " NOT NULL" [.word "NOT", .word "NULL"])
  unfold definition atoms
  cases hdefault : c.default with
  | none => simpa using hkey
  | some d =>
    have hvalue : Reads (" DEFAULT " ++ d) (.word "DEFAULT" :: dialect.atoms d) :=
      Reads.append (by decide : Spelled " DEFAULT " [.word "DEFAULT"]) (h.default d hdefault).reads
    have hblank : (" DEFAULT " ++ d).toList = ' ' :: ("DEFAULT " ++ d).toList := by simp [String.toList_append]
    exact hkey.followed hblank rfl hvalue

theorem TableItem.reads_definition {item : TableItem} (h : item.IsReadable) : Reads item.definition.1 item.atoms := by
  have hclose : Spelled ")" [.delimiter ')'] := by decide
  cases item with
  | column c => exact c.reads_definition h
  | primaryKey columns =>
    have hopen : Spelled "PRIMARY KEY (" [.word "PRIMARY", .word "KEY", .delimiter '('] := by decide
    exact ((Reads.append hopen (reads_names h)).before rfl rfl hclose).reads
  | foreignKey key table target =>
    obtain ⟨hkey, htable, htarget⟩ := h
    have hopen : Spelled "FOREIGN KEY (" [.word "FOREIGN", .word "KEY", .delimiter '('] := by decide
    have hrefer : Spelled ") REFERENCES " [.delimiter ')', .word "REFERENCES"] := by decide
    have hparenthesis : Spelled "(" [.delimiter '('] := by decide
    have hfront := (Reads.append hopen (reads_name hkey)).before rfl rfl hrefer
    have htarget' := (Reads.append hfront (reads_name htable)).before rfl rfl hparenthesis
    exact ((Reads.append htarget' (reads_name htarget)).before rfl rfl hclose).reads

theorem TableItem.oneLine_remark {item : TableItem} (h : item.IsReadable) : ∀ r ∈ item.definition.2, OneLine r := by
  cases item with
  | column c => exact h.remark
  | primaryKey | foreignKey => exact fun r hr => nomatch hr

/-- A comment on one line is read as nothing. -/
theorem spelled_remark {text : String} (h : OneLine text) : Spelled ("-- " ++ text ++ "\n") [] :=
  spelled_comment rfl h

/-- A line of a table: a definition, perhaps a comma, and perhaps a comment. -/
theorem spelled_definitionLine {definition : String} {as : List Atom} (hdefinition : Reads definition as)
    (last : Bool) {remark : Option String} (hremark : ∀ r ∈ remark, OneLine r) :
    Spelled ("    " ++ definition ++ (if last then "" else ",") ++ (remark.map (" -- " ++ ·)).getD "" ++ "\n")
      (as ++ if last then [] else [Atom.delimiter ',']) := by
  have hstart : Reads ("    " ++ definition) as := Reads.append (by decide : Spelled "    " []) hdefinition
  have hend : Spelled ((remark.map (" -- " ++ ·)).getD "" ++ "\n") [] := by
    cases remark with
    | none => decide
    | some r =>
      have hopening : " -- " ++ r ++ "\n" = " " ++ ("-- " ++ r ++ "\n") := by
        rw [← String.append_assoc, ← String.append_assoc]
        rfl
      show Spelled (" -- " ++ r ++ "\n") []
      rw [hopening]
      exact Spelled.append (by decide : Spelled " " []) (spelled_remark (hremark r rfl))
  rw [String.append_assoc]
  cases last with
  | true =>
    have hblank : ∃ c cs, ((remark.map (" -- " ++ ·)).getD "" ++ "\n").toList = c :: cs ∧ dialect.isBreak c := by
      cases remark with
      | none => exact ⟨_, _, rfl, rfl⟩
      | some r => exact ⟨' ', _, by simp [String.toList_append]; rfl, rfl⟩
    obtain ⟨c, cs, hcs, hc⟩ := hblank
    simpa using hstart.before hcs hc hend
  | false => simpa using (hstart.before rfl rfl (by decide : Spelled "," [.delimiter ','])).append hend

/-- The items of a table, on lines of their own with commas between them. -/
theorem spelled_items {items : List TableItem} (h : ∀ item ∈ items, item.IsReadable) :
    Spelled (definitionBlock (items.map TableItem.definition) ++ "\n") (listAtoms (items.map TableItem.atoms)) := by
  unfold definitionBlock Text.unlines
  induction items with
  | nil => decide
  | cons item items ih =>
    obtain ⟨hitem, hitems⟩ := List.forall_mem_cons.1 h
    have hline := spelled_definitionLine (TableItem.reads_definition hitem) items.isEmpty
      (TableItem.oneLine_remark hitem)
    cases items with
    | nil => simpa [definitionLines, listAtoms] using hline
    | cons next items =>
      have hrest := hline.append (ih hitems)
      simp only [listAtoms, List.map_cons, List.intercalate_cons_cons, definitionLines,
        String.intercalate_cons_cons] at hrest ⊢
      simpa [String.append_assoc] using hrest

/-- The definition of a table is read item by item. -/
theorem Table.spelled_render {onlyIfMissing : Bool} {t : Table} (h : t.IsReadable) :
    Spelled (Statement.createTable onlyIfMissing t).render (t.atoms onlyIfMissing ++ [Atom.delimiter ';']) := by
  have hcreate : Spelled ("CREATE TABLE " ++ if onlyIfMissing then "IF NOT EXISTS " else "")
      ([Atom.word "CREATE", .word "TABLE"]
        ++ if onlyIfMissing then [Atom.word "IF", .word "NOT", .word "EXISTS"] else []) := by
    cases onlyIfMissing <;> decide
  have hopen : Spelled " (\n" [.delimiter '('] := by decide
  have hclose : Spelled ");\n" [.delimiter ')', .delimiter ';'] := by decide
  have hhead := (Reads.append hcreate (reads_name h.name)).before rfl rfl hopen
  have htable := (hhead.append (spelled_items h.items)).append hclose
  rw [Statement.render_createTable]
  simpa [atoms] using htable

/-- No semicolon outside a literal belongs to the definition of an item. -/
theorem TableItem.not_mem_atoms {item : TableItem} (h : item.IsReadable) : .delimiter ';' ∉ item.atoms := by
  cases item with
  | column c =>
    have hdefault : .delimiter ';' ∉ (c.default.map fun d => Atom.word "DEFAULT" :: dialect.atoms d).getD [] := by
      cases hd : c.default with
      | none => simp
      | some d => simpa using (h.default d hd).semicolon
    have hkey : ∀ b : Bool, .delimiter ';' ∉ if b then [Atom.word "PRIMARY", .word "KEY"] else [] := by decide
    have hnull : ∀ b : Bool, .delimiter ';' ∉ if b then [Atom.word "NOT", .word "NULL"] else [] := by decide
    simp only [atoms, Column.atoms, List.mem_append, not_or]
    exact ⟨⟨⟨⟨by simp, h.type.semicolon⟩, hkey _⟩, hnull _⟩, hdefault⟩
  | primaryKey columns => simp [atoms, semicolon_notMem_nameAtoms]
  | foreignKey key table target => simp [atoms]

theorem Table.not_mem_atoms {onlyIfMissing : Bool} {t : Table} (h : t.IsReadable) :
    .delimiter ';' ∉ t.atoms onlyIfMissing := by
  have hitems : .delimiter ';' ∉ listAtoms (t.items.map TableItem.atoms) :=
    not_mem_listAtoms (by decide) (List.forall_mem_map.2 fun item hitem => TableItem.not_mem_atoms (h.items item hitem))
  cases onlyIfMissing <;> simp [atoms, hitems]

/-! ## Statements -/

/-- What the statement for a row is read as, up to the semicolon. -/
def Insert.atoms (i : Insert) : List Atom :=
  i.rowAtoms ++ i.conflict.atoms

theorem Insert.spelled_render {i : Insert} (h : i.IsReadable) (hconflict : i.conflict.IsReadable) :
    Spelled i.render (i.atoms ++ [Atom.delimiter ';']) :=
  (Conflict.reads_behind hconflict (Insert.reads_row h).reads).before rfl rfl (by decide : Spelled ";" _)

namespace Statement

/-- What a statement is read as, up to the semicolon; comments and blank lines are no statements to a reader. -/
def atoms? : Statement → Option (List Atom)
  | .comment _ | .blank => none
  | .createSchema name =>
    some [.word "CREATE", .word "SCHEMA", .word "IF", .word "NOT", .word "EXISTS", .word name]
  | .createTable onlyIfMissing t => some (t.atoms onlyIfMissing)
  | .insert i => some i.atoms

/-- The names of a statement are names, and its comments stand on one line. -/
def IsReadable : Statement → Prop
  | .comment text => OneLine text
  | .blank => True
  | .createSchema name => IsName name
  | .createTable _ t => t.IsReadable
  | .insert i => i.IsReadable ∧ i.conflict.IsReadable

theorem isReadable_insert {table : String} {columns : List String} {values : List Term} {conflict : Conflict}
    (htable : IsName table) (hcolumns : ∀ c ∈ columns, IsName c) (hvalues : ∀ v ∈ values, v.HasNames)
    (hlength : columns.length = values.length) (hne : columns ≠ []) (hconflict : conflict.IsReadable) :
    (insert { table, columns, values, conflict }).IsReadable :=
  ⟨⟨htable, hcolumns, hvalues, hlength, hne⟩, hconflict⟩

/-- A row without a clause. -/
theorem isReadable_row {table : String} {columns : List String} {values : List Term} (htable : IsName table)
    (hcolumns : ∀ c ∈ columns, IsName c) (hvalues : ∀ v ∈ values, v.HasNames) (hlength : columns.length = values.length)
    (hne : columns ≠ []) : (row table columns values).IsReadable :=
  isReadable_insert htable hcolumns hvalues hlength hne trivial

variable {st : Statement}

/-- Comments and blank lines are read as nothing, and other statements up to their semicolons. -/
theorem spelled_render (h : st.IsReadable) :
    Spelled st.render (st.atoms?.toList.flatMap fun as => as ++ [Atom.delimiter ';']) := by
  cases st with
  | comment text => exact spelled_remark h
  | blank => decide
  | createSchema name =>
    have hcreate : Spelled "CREATE SCHEMA IF NOT EXISTS "
        [.word "CREATE", .word "SCHEMA", .word "IF", .word "NOT", .word "EXISTS"] := by decide
    exact (Reads.append hcreate (reads_name h)).before rfl rfl (by decide : Spelled ";\n" [.delimiter ';'])
  | createTable onlyIfMissing t => simpa [atoms?] using Table.spelled_render h
  | insert i =>
    have hrow := (Insert.spelled_render h.1 h.2).append (by decide : Spelled "\n" [])
    rw [List.append_nil] at hrow
    simp only [atoms?, Option.toList_some, List.flatMap_singleton]
    exact hrow

/-- No semicolon outside a literal belongs to a statement. -/
theorem not_mem_atoms (h : st.IsReadable) : ∀ as ∈ st.atoms?, .delimiter ';' ∉ as := by
  rintro as has
  cases st with
  | comment | blank => cases has
  | createSchema name =>
    obtain rfl := Option.some.inj has
    simp
  | createTable onlyIfMissing t =>
    obtain rfl := Option.some.inj has
    exact Table.not_mem_atoms h
  | insert i =>
    obtain rfl := Option.some.inj has
    exact fun hmem => (List.mem_append.1 hmem).elim i.not_mem_rowAtoms i.conflict.not_mem_atoms

end Statement

/-! ## Scripts -/

section Scripts

variable {s : Script}

/-- The statements that are read in the text of a script are those of the script. -/
theorem statements_render (h : ∀ st ∈ s, st.IsReadable) :
    dialect.statements s.render = s.filterMap Statement.atoms? ++ [[]] :=
  statements_join (fun st hst => Statement.spelled_render (h st hst)) fun st hst => Statement.not_mem_atoms (h st hst)

/-- What is read in each statement of a script is read in its text. -/
theorem readAll_render {α : Type} {read : List Atom → Option α} {value? : Statement → Option α}
    (h : ∀ st ∈ s, st.IsReadable) (hread : ∀ st ∈ s, st.atoms?.map read = (value? st).map some) :
    dialect.readAll read s.render = some (s.filterMap value?) :=
  readAll_join (fun st hst => Statement.spelled_render (h st hst)) (fun st hst => Statement.not_mem_atoms (h st hst))
    hread

/-- What a row asks for is found again. -/
theorem Insert.read?_atoms {i : Insert} (h : i.IsReadable) (hconflict : i.conflict.IsReadable) :
    Action.read? i.atoms = some (.insert i.row i.conflict.clause) := by
  have hinsert : Action.read? i.atoms = (do
      let (row, rest) ← Row.readInsert? i.atoms
      let clause ← Clause.read? rest
      return .insert row clause) := rfl
  rw [hinsert, Insert.atoms, Insert.readInsert?_rowAtoms h]
  simp [Conflict.read?_atoms hconflict]

/-- A statement that can be read, and does not define a table whose columns or key a reader would miss. -/
def Statement.IsUnderstood : Statement → Prop
  | .createTable onlyIfMissing t =>
    t.IsReadable ∧ Action.read? (t.atoms onlyIfMissing) = some (.defineTable onlyIfMissing t.name t.columns t.key)
  | st => st.IsReadable

instance (onlyIfMissing : Bool) (t : Table) : Decidable (Statement.createTable onlyIfMissing t).IsUnderstood :=
  inferInstanceAs (Decidable (t.IsReadable ∧ _ = some (Action.defineTable onlyIfMissing t.name t.columns t.key)))

@[simp] theorem Statement.isUnderstood_comment {text : String} : (comment text).IsUnderstood ↔ OneLine text := Iff.rfl

@[simp] theorem Statement.isUnderstood_blank : blank.IsUnderstood := trivial

@[simp] theorem Statement.isUnderstood_createSchema {name : String} : (createSchema name).IsUnderstood ↔ IsName name :=
  Iff.rfl

theorem Statement.IsUnderstood.isReadable {st : Statement} (h : st.IsUnderstood) : st.IsReadable := by
  cases st with
  | createTable => exact h.1
  | _ => exact h

/-- What the text of a script asks for is what its statements ask for. -/
theorem readActions_render (h : ∀ st ∈ s, st.IsUnderstood) :
    readActions s.render = some (s.filterMap Statement.action?) := by
  have hread : ∀ st ∈ s, st.atoms?.map Action.read? = st.action?.map some := by
    intro st hst
    have hst := h st hst
    cases st with
    | comment | blank | createSchema => rfl
    | createTable => exact congrArg some hst.2
    | insert => exact congrArg some (Insert.read?_atoms hst.1 hst.2)
  exact readAll_render (fun st hst => (h st hst).isReadable) hread

/-- The rows that the statements of a text insert, with their clauses, whatever else the text holds. -/
def insertions (text : String) : List (Row × Clause) :=
  (dialect.statements text).filterMap fun as => (Action.read? as).bind Action.insert?

/-- The rows that are found in the text of a script are those that the script inserts. -/
theorem insertions_render (h : ∀ st ∈ s, st.IsReadable) :
    insertions s.render = s.filterMap fun st => st.action?.bind Action.insert? := by
  have htable : ∀ onlyIfMissing name as, (readTable? onlyIfMissing name as).bind Action.insert? = none := by
    intro onlyIfMissing name as
    unfold readTable?
    split
    · next items _ => cases (topLevel 0 items).mapM readItem? <;> rfl
    · rfl
  have hread : ∀ st ∈ s, (st.atoms?.bind fun as => (Action.read? as).bind Action.insert?) =
      st.action?.bind Action.insert? := by
    intro st hst
    cases st with
    | comment | blank | createSchema => rfl
    | createTable onlyIfMissing t =>
      show (Action.read? (t.atoms onlyIfMissing)).bind Action.insert? = none
      cases onlyIfMissing <;> simp [Table.atoms, Action.read?, htable]
    | insert i =>
      show (Action.read? i.atoms).bind Action.insert? = _
      rw [Insert.read?_atoms (h _ hst).1 (h _ hst).2]
      rfl
  rw [insertions, statements_render h, List.filterMap_append, List.filterMap_filterMap]
  exact (List.append_nil _).trans (List.filterMap_congr hread)

/-- The row that a statement without a clause inserts. -/
def Statement.row? : Statement → Option Row
  | .insert i => some i.row
  | _ => none

/-- The statement is no definition, and a row of it has no clause. -/
def Statement.IsPlain : Statement → Prop
  | .insert i => i.conflict = .fail
  | .createSchema _ | .createTable .. => False
  | .comment _ | .blank => True

/-- The rows that are read in the text of a script are those that the script inserts, in their order. -/
theorem readRows_render (h : ∀ st ∈ s, st.IsReadable) (hplain : ∀ st ∈ s, st.IsPlain) :
    readRows s.render = some (s.filterMap Statement.row?) := by
  have hread : ∀ st ∈ s, st.atoms?.map Row.read? = st.row?.map some := by
    intro st hst
    cases st with
    | comment | blank => rfl
    | createSchema | createTable => cases hplain _ hst
    | insert i =>
      have hfail : i.conflict = .fail := hplain _ hst
      have hatoms : i.atoms = i.rowAtoms ++ [] := by rw [Insert.atoms, hfail, Conflict.atoms]
      show some (Row.read? i.atoms) = some (some i.row)
      rw [hatoms, Row.read?, Insert.readInsert?_rowAtoms (h _ hst).1]
  exact readAll_render h hread

end Scripts

end MediaLanguage.Sql

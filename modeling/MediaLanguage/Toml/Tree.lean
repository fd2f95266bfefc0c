import MediaLanguage.Toml.Value

/-!
# Tables in the making

The tables of a settings file are filled statement by statement, and a file may not say the same thing twice. A tree
therefore remembers how each of its tables came to be:

* a table on the way to another one is `implied`, and may still get a header of its own;
* a table that a dotted key opened may be extended by the dotted keys of the same section, and by nothing else;
* a table with a header is complete in the sense that it gets no second header.

A value never changes, and the tables inside it do not either. `Tree.assign`, `Tree.declare` and `Tree.append` are the
three statements of a file; each gives `none` where the file contradicts itself.
-/

namespace MediaLanguage.Toml

/-- How a table came to be. -/
inductive Status where
  | implied
  /-- By a dotted key in the section with this number. -/
  | dotted (part : Nat)
  | declared
deriving DecidableEq

/-- A value, a table in the making, or an array of tables, of which only the last is in the making. -/
inductive Tree where
  | value (v : Toml)
  | table (status : Status) (entries : List (String × Tree))
  | tables (earlier : List (List (String × Tree))) (last : List (String × Tree))

/-- The entries of a table in the making. -/
abbrev Entries := List (String × Tree)

namespace Tree

/-- The entries after a change of what stands under `key`; a new key comes last. -/
def change (f : Option Tree → Option Tree) (key : String) : Entries → Option Entries
  | [] => (f none).map fun t => [(key, t)]
  | (k, t) :: rest =>
    if k = key then (f (some t)).map fun t' => (k, t') :: rest
    else (change f key rest).map ((k, t) :: ·)

/-- The entries after a change inside the table at `path`. Missing tables are implied, and an array of tables stands
for its last table. -/
def within (f : Entries → Option Entries) : List String → Entries → Option Entries
  | [], entries => f entries
  | key :: path, entries =>
    change (fun
      | none => (within f path []).map (.table .implied)
      | some (.table status inner) => (within f path inner).map (.table status)
      | some (.tables earlier last) => (within f path last).map (.tables earlier)
      | some (.value _) => none) key entries

/-- What a header makes of a table. -/
def declareTable : Option Tree → Option Tree
  | none => some (.table .declared [])
  | some (.table .implied entries) => some (.table .declared entries)
  | _ => none

/-- What a double header makes of an array of tables: a new table at its end. -/
def appendTable : Option Tree → Option Tree
  | none => some (.tables [] [])
  | some (.tables earlier last) => some (.tables (earlier ++ [last]) [])
  | _ => none

/-- What an assignment makes of a key, which has to be new. -/
def setValue (v : Toml) : Option Tree → Option Tree
  | none => some (.value v)
  | some _ => none

/-- The entries after a header. -/
def declare (path : List String) (key : String) : Entries → Option Entries :=
  within (change declareTable key) path

/-- The entries after a double header. -/
def append (path : List String) (key : String) : Entries → Option Entries :=
  within (change appendTable key) path

/-- The entries after an assignment to a dotted key in a section. -/
def assign (part : Nat) (v : Toml) (key : String) : List String → Entries → Option Entries
  | [], entries => change (setValue v) key entries
  | name :: path, entries =>
    let dotted := fun inner => (assign part v key path inner).map (.table (.dotted part))
    change (fun
      | none => dotted []
      | some (.table .implied inner) => dotted inner
      | some (.table (.dotted n) inner) => if n = part then dotted inner else none
      | _ => none) name entries

mutual

/-- What a tree has come to hold. -/
def toValue : Tree → Toml
  | .value v => v
  | .table _ entries => .table (entryValues entries)
  | .tables earlier last => .array (tableValues earlier ++ [Toml.table (entryValues last)])

/-- The values of entries. -/
def entryValues : List (String × Tree) → List (String × Toml)
  | [] => []
  | (key, t) :: entries => (key, t.toValue) :: entryValues entries

/-- The tables of an array. -/
def tableValues : List (List (String × Tree)) → List Toml
  | [] => []
  | entries :: rest => .table (entryValues entries) :: tableValues rest

end

end Tree

end MediaLanguage.Toml

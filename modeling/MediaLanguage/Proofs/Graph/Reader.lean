import Mathlib.Data.List.TakeWhile
import MediaLanguage.Proofs.Graph.Outline
import MediaLanguage.Proofs.Text.Scanner

/-!
# Reading graph commands back

A script is read as the program that runs it reads it: into words, delimiters and literals, in which a backslash stands
in front of a character that is meant as it is. A command creates a node, or looks for two nodes and draws an edge
between them; constraints and indexes draw nothing.

* `Node.spelled_render`, `Edge.spelled_render`: nodes and edges whose names are names are read as they are meant.
* `readActions_render`: what the text of a script asks for is what its commands ask for.
-/

namespace MediaLanguage.Graph

open Dialect

/-- How graph scripts are written. -/
def dialect : Dialect where
  toLexis := lexis
  delimiters := ['(', ')', '\x7b', '\x7d', '[', ']', ':', ',', ';']
  shield := '\\'
  delimiters_apart := @of_decide_eq_true _ (List.decidableBAll _ _) rfl

/-- The text is read as the atoms, and nothing of it is left. -/
abbrev Spelled (s : String) (as : List Atom) : Prop :=
  dialect.Spelled s as

/-- The text is read as the atoms in front of a blank or delimiter. -/
abbrev Reads (s : String) (as : List Atom) : Prop :=
  dialect.Reads s as

/-! ## Commands that are read -/

/-- A value as it is read. -/
inductive Cell where
  | missing
  /-- A value without quotes, as it is written. -/
  | number (text : String)
  | text (value : String)
  | date (day : String)
  | now
deriving DecidableEq

/-- A node as it is read. -/
structure Sketch where
  binder : String
  label : String
  cells : List (String × Cell)
deriving DecidableEq

/-- An edge as it is read. -/
structure Stroke where
  source : String
  type : String
  cells : List (String × Cell)
  target : String
deriving DecidableEq

/-- What a command asks for, as it is read. -/
inductive Action where
  /-- A constraint or an index. -/
  | prepare
  | create (node : Sketch)
  | connect (first second : Sketch) (edge : Stroke)
deriving DecidableEq

/-- The value between a colon and a comma. -/
def Cell.read? : List Atom → Option Cell
  | [.word written] => some (if written = "null" then .missing else .number written)
  | [.literal value] => some (.text value)
  | [.word "date", .delimiter '(', .literal day, .delimiter ')'] => some (.date day)
  | [.word "datetime", .delimiter '(', .delimiter ')'] => some .now
  | _ => none

/-- A property with its value. -/
def readProperty? : List Atom → Option (String × Cell)
  | .word name :: .delimiter ':' :: value => (Cell.read? value).map (name, ·)
  | _ => none

/-- The properties in front of a closing brace, and what follows it. -/
def readProperties? (as : List Atom) : Option (List (String × Cell) × List Atom) :=
  let inside := as.takeWhile (· ≠ .delimiter '\x7d')
  match as.dropWhile (· ≠ .delimiter '\x7d') with
  | _ :: rest => ((if inside.isEmpty then [] else listed inside).mapM readProperty?).map (·, rest)
  | [] => none

/-- The node at the front, and what follows it. -/
def Sketch.read? : List Atom → Option (Sketch × List Atom)
  | .delimiter '(' :: .word binder :: .delimiter ':' :: .word label :: .delimiter '\x7b' :: as =>
    match readProperties? as with
    | some (cells, .delimiter ')' :: rest) => some (⟨binder, label, cells⟩, rest)
    | _ => none
  | _ => none

/-- The edge that is the rest of a command. -/
def Stroke.read? : List Atom → Option Stroke
  | .delimiter '(' :: .word source :: .delimiter ')' :: .word "-" :: .delimiter '[' :: .delimiter ':' :: .word type
      :: as =>
    let details := match as with
      | .delimiter '\x7b' :: as => readProperties? as
      | as => some ([], as)
    match details with
    | some (cells, [.delimiter ']', .word "->", .delimiter '(', .word target, .delimiter ')']) =>
      some ⟨source, type, cells, target⟩
    | _ => none
  | _ => none

/-- What a command asks for. -/
def Action.read? : List Atom → Option Action
  | .word "CREATE" :: .word "CONSTRAINT" :: _ | .word "CREATE" :: .word "INDEX" :: _ => some .prepare
  | .word "CREATE" :: as =>
    match Sketch.read? as with
    | some (node, []) => some (.create node)
    | _ => none
  | .word "MATCH" :: as =>
    match Sketch.read? as with
    | some (first, .delimiter ',' :: as) =>
      match Sketch.read? as with
      | some (second, .word "CREATE" :: as) => (Stroke.read? as).map (.connect first second)
      | _ => none
    | _ => none
  | _ => none

/-- What the commands of a text ask for, if the last of them is finished. -/
def readActions (s : String) : Option (List Action) :=
  dialect.readAll Action.read? s

/-! ## Values and properties -/

/-- A literal is read as its text, whatever that holds. -/
theorem reads_quote (s : String) : Reads (quote s) [.literal s] := by
  refine reads_literal (fun c => ?_) s
  by_cases hc : c = '\'' ∨ c = '\\'
  · exact .inr ⟨if_pos hc, rfl⟩
  · exact .inl ⟨if_neg hc, fun h => hc (.inl h), fun h => hc (.inr h)⟩

namespace Term

/-- What a value is read as. -/
def atoms : Term → List Atom
  | .null => [.word "null"]
  | .integer value => [.word (toString value)]
  | .number value => [.word value.text]
  | .text value => [.literal value]
  | .date day => [.word "date", .delimiter '(', .literal day, .delimiter ')']
  | .now => [.word "datetime", .delimiter '(', .delimiter ')']

def cell : Term → Cell
  | .null => .missing
  | .integer value => .number (toString value)
  | .number value => .number value.text
  | .text value => .text value
  | .date day => .date day
  | .now => .now

theorem cell_eq_missing_iff {t : Term} : t.cell = .missing ↔ t = .null := by
  cases t <;> simp [cell]

theorem reads_render (t : Term) : Reads t.render t.atoms := by
  cases t with
  | null => exact reads_name (by decide)
  | integer k => exact reads_numeral (isNumeral_integer k)
  | number x => exact reads_numeral x.isNumeral_text
  | text s => exact reads_quote s
  | date day =>
    have hopen : Spelled "date(" [.word "date", .delimiter '('] := by decide
    have hclose : Spelled ")" [.delimiter ')'] := by decide
    exact ((Reads.append hopen (reads_quote day)).before rfl rfl hclose).reads
  | now => decide

theorem read?_atoms (t : Term) : Cell.read? t.atoms = some t.cell := by
  cases t with
  | integer k => exact congrArg some (if_neg (isNumeral_integer k).ne_null.2)
  | number x => exact congrArg some (if_neg x.isNumeral_text.ne_null.2)
  | null | text | date | now => rfl

/-- No comma, brace or semicolon outside a literal belongs to a value. -/
theorem not_mem_atoms (t : Term) {c : Char} (h : c ∈ [',', '\x7d', ';']) : .delimiter c ∉ t.atoms := by
  simp only [List.mem_cons, List.not_mem_nil, or_false] at h
  obtain rfl | rfl | rfl := h <;> cases t <;> simp [atoms]

end Term

namespace Properties

/-- What a property is read as. -/
def itemAtoms (p : String × Term) : List Atom :=
  .word p.1 :: .delimiter ':' :: p.2.atoms

/-- What properties are read as behind the opening brace, with the closing brace. -/
def atoms (ps : Properties) : List Atom :=
  listAtoms (ps.map itemAtoms) ++ [Atom.delimiter '\x7d']

def cells (ps : Properties) : List (String × Cell) :=
  ps.map fun p => (p.1, p.2.cell)

variable {ps : Properties}

theorem lookup_cells (ps : Properties) (name : String) : (cells ps).lookup name = (ps.lookup name).map Term.cell := by
  induction ps with
  | nil => rfl
  | cons p ps ih =>
    rw [cells, List.map_cons, List.lookup_cons, List.lookup_cons]
    cases name == p.1 with
    | true => rfl
    | false => exact ih

theorem spelled_render (h : HasNames ps) : Spelled (render ps) (.delimiter '\x7b' :: atoms ps) := by
  have hopen : Spelled "\x7b" [.delimiter '\x7b'] := by decide
  have hcolon : Spelled ": " [.delimiter ':'] := by decide
  have hclose : Spelled "\x7d" [.delimiter '\x7d'] := by decide
  have hitems : Reads (String.intercalate ", " (ps.map fun p => p.1 ++ ": " ++ p.2.render))
      (listAtoms (ps.map itemAtoms)) := by
    refine reads_list (by decide) fun p hp => ?_
    exact Reads.append ((reads_name (h p hp)).before rfl rfl hcolon) p.2.reads_render
  exact (Reads.append hopen hitems).before rfl rfl hclose

theorem not_mem_items {c : Char} (h : c = '\x7d' ∨ c = ';') : .delimiter c ∉ listAtoms (ps.map itemAtoms) := by
  have hvalue : ∀ t : Term, .delimiter c ∉ t.atoms := by
    intro t
    obtain rfl | rfl := h <;> exact t.not_mem_atoms (by simp)
  have hne : c ≠ ',' ∧ c ≠ ':' := by
    obtain rfl | rfl := h <;> decide
  refine not_mem_listAtoms (by simp [hne]) (List.forall_mem_map.2 fun p _ => ?_)
  simp [itemAtoms, hne, hvalue]

/-- The properties are found again, whatever follows the closing brace. -/
theorem readProperties?_atoms (ps : Properties) (rest : List Atom) :
    readProperties? (atoms ps ++ rest) = some (cells ps, rest) := by
  have hall : ∀ a ∈ listAtoms (ps.map itemAtoms), decide (a ≠ .delimiter '\x7d') = true := by
    intro a ha
    rw [decide_eq_true_eq]
    rintro rfl
    exact not_mem_items (.inl rfl) ha
  have hinside : (atoms ps ++ rest).takeWhile (· ≠ .delimiter '\x7d') = listAtoms (ps.map itemAtoms) := by
    rw [atoms, List.append_assoc, List.takeWhile_append_of_pos hall]
    simp
  have hbehind : (atoms ps ++ rest).dropWhile (· ≠ .delimiter '\x7d') = .delimiter '\x7d' :: rest := by
    rw [atoms, List.append_assoc, List.dropWhile_append_of_pos hall]
    simp
  have hitems : (if (listAtoms (ps.map itemAtoms)).isEmpty then [] else listed (listAtoms (ps.map itemAtoms))) =
      ps.map itemAtoms := by
    cases ps with
    | nil => rfl
    | cons p ps =>
      have hno : ∀ as ∈ (p :: ps).map itemAtoms, .delimiter ',' ∉ as :=
        List.forall_mem_map.2 fun q _ => by simp [itemAtoms, q.2.not_mem_atoms]
      have hne : listAtoms ((p :: ps).map itemAtoms) ≠ [] := by
        cases ps <;> simp [listAtoms, itemAtoms, List.intercalate_cons_cons]
      rw [List.isEmpty_eq_false_iff.2 hne]
      exact listed_listAtoms (by simp) hno
  have hread : ((ps.map itemAtoms).mapM readProperty?) = some (cells ps) :=
    mapM_map_eq_some fun p _ => by simp [itemAtoms, readProperty?, p.2.read?_atoms]
  simp only [readProperties?, hinside, hbehind, hitems, hread, Option.map_some]

end Properties

/-! ## Nodes and edges -/

namespace Node

/-- What a node is read as. -/
def atoms (n : Node) : List Atom :=
  [Atom.delimiter '(', .word n.binder, .delimiter ':', .word n.label, .delimiter '\x7b'] ++ n.properties.atoms
    ++ [Atom.delimiter ')']

def sketch (n : Node) : Sketch :=
  ⟨n.binder, n.label, n.properties.cells⟩

variable {n : Node}

theorem spelled_render (h : n.HasNames) : Spelled n.render n.atoms := by
  have hopen : Spelled "(" [.delimiter '('] := by decide
  have hcolon : Spelled ":" [.delimiter ':'] := by decide
  have hblank : Spelled " " [] := by decide
  have hclose : Spelled ")" [.delimiter ')'] := by decide
  have hbinder := (Reads.append hopen (reads_name h.binder)).before rfl rfl hcolon
  have hlabel := (Reads.append hbinder (reads_name h.label)).before rfl rfl hblank
  have hnode := (hlabel.append (Properties.spelled_render h.properties)).append hclose
  show Spelled ("(" ++ n.binder ++ ":" ++ n.label ++ " " ++ Properties.render n.properties ++ ")") n.atoms
  simpa [atoms] using hnode

/-- A node is found again, whatever follows. -/
theorem read?_atoms (n : Node) (rest : List Atom) : Sketch.read? (n.atoms ++ rest) = some (n.sketch, rest) := by
  simp only [atoms, List.append_assoc, List.cons_append, List.nil_append, Sketch.read?,
    Properties.readProperties?_atoms]
  rfl

theorem not_mem_atoms (n : Node) : .delimiter ';' ∉ n.atoms := by
  simp [atoms, Properties.atoms, Properties.not_mem_items (.inr rfl)]

end Node

namespace Edge

/-- What an edge is read as. -/
def atoms (e : Edge) : List Atom :=
  [Atom.delimiter '(', .word e.source, .delimiter ')', .word "-", .delimiter '[', .delimiter ':', .word e.type]
    ++ (if e.properties.isEmpty then [] else Atom.delimiter '\x7b' :: e.properties.atoms)
    ++ [Atom.delimiter ']', .word "->", .delimiter '(', .word e.target, .delimiter ')']

def stroke (e : Edge) : Stroke :=
  ⟨e.source, e.type, e.properties.cells, e.target⟩

variable {e : Edge}

theorem spelled_render (h : e.HasNames) : Spelled e.render e.atoms := by
  have hopen : Spelled "(" [.delimiter '('] := by decide
  have hbracket : Spelled ")-[:" [.delimiter ')', .word "-", .delimiter '[', .delimiter ':'] := by decide
  have harrow : Spelled "]->(" [.delimiter ']', .word "->", .delimiter '('] := by decide
  have hblank : Spelled " " [] := by decide
  have hclose : Spelled ")" [.delimiter ')'] := by decide
  have hfront := (Reads.append hopen (reads_name h.source)).before rfl rfl hbracket
  have htype := Reads.append hfront (reads_name h.type)
  have hdetails : Reads ("(" ++ e.source ++ ")-[:" ++ e.type
      ++ if e.properties.isEmpty then "" else " " ++ Properties.render e.properties)
      ([Atom.delimiter '(', .word e.source, .delimiter ')', .word "-", .delimiter '[', .delimiter ':', .word e.type]
        ++ if e.properties.isEmpty then [] else Atom.delimiter '\x7b' :: e.properties.atoms) := by
    split
    · simpa using htype
    · have hproperties := hblank.append (Properties.spelled_render h.properties)
      have hstart :
          (" " ++ Properties.render e.properties).toList = ' ' :: (Properties.render e.properties).toList := by
        simp
      exact (htype.before hstart rfl hproperties).reads
  have hedge := (Reads.append (hdetails.before rfl rfl harrow) (reads_name h.target)).before rfl rfl hclose
  show Spelled ("(" ++ e.source ++ ")-[:" ++ e.type
    ++ (if e.properties.isEmpty then "" else " " ++ Properties.render e.properties)
    ++ ("]->(" ++ e.target ++ ")")) e.atoms
  rw [← String.append_assoc, ← String.append_assoc]
  simpa [atoms] using hedge

/-- An edge is found again. -/
theorem read?_atoms (e : Edge) : Stroke.read? e.atoms = some e.stroke := by
  cases hproperties : e.properties with
  | nil => simp [atoms, hproperties, Stroke.read?, stroke, Properties.cells]
  | cons p ps =>
    have hread := Properties.readProperties?_atoms (p :: ps)
      [.delimiter ']', .word "->", .delimiter '(', .word e.target, .delimiter ')']
    simp [atoms, hproperties, Stroke.read?, hread, stroke]

theorem not_mem_atoms (e : Edge) : .delimiter ';' ∉ e.atoms := by
  cases hproperties : e.properties with
  | nil => simp [atoms, hproperties]
  | cons p ps => simp [atoms, hproperties, Properties.atoms, -List.map_cons, Properties.not_mem_items (.inr rfl)]

end Edge

/-! ## Commands -/

namespace Command

/-- What a command is read as, up to the semicolon; comments and blank lines are no commands to a reader. -/
def atoms? : Command → Option (List Atom)
  | .comment _ | .blank => none
  | .unique name binder label property =>
    some [.word "CREATE", .word "CONSTRAINT", .word name, .word "IF", .word "NOT", .word "EXISTS", .word "FOR",
      .delimiter '(', .word binder, .delimiter ':', .word label, .delimiter ')', .word "REQUIRE",
      .word (binder ++ "." ++ property), .word "IS", .word "UNIQUE"]
  | .index name binder label property =>
    some [.word "CREATE", .word "INDEX", .word name, .word "IF", .word "NOT", .word "EXISTS", .word "FOR",
      .delimiter '(', .word binder, .delimiter ':', .word label, .delimiter ')', .word "ON", .delimiter '(',
      .word (binder ++ "." ++ property), .delimiter ')']
  | .create node => some (.word "CREATE" :: node.atoms)
  | .connect first second edge =>
    some (Atom.word "MATCH" :: first.atoms ++ Atom.delimiter ',' :: second.atoms ++ Atom.word "CREATE" :: edge.atoms)

/-- What a command asks for. -/
def action? : Command → Option Action
  | .comment _ | .blank => none
  | .unique .. | .index .. => some .prepare
  | .create node => some (.create node.sketch)
  | .connect first second edge => some (.connect first.sketch second.sketch edge.stroke)

variable {c : Command}

/-- The front of a command for the nodes with a label. -/
theorem reads_front {opening name binder label : String} {as : List Atom} (hopen : Spelled opening as)
    (hname : IsName name) (hbinder : IsName binder) (hlabel : IsName label) :
    Reads (opening ++ name ++ " IF NOT EXISTS FOR (" ++ binder ++ ":" ++ label)
      (as ++ [Atom.word name, .word "IF", .word "NOT", .word "EXISTS", .word "FOR", .delimiter '(', .word binder,
        .delimiter ':', .word label]) := by
  have hfor : Spelled " IF NOT EXISTS FOR ("
      [.word "IF", .word "NOT", .word "EXISTS", .word "FOR", .delimiter '('] := by decide
  have hcolon : Spelled ":" [.delimiter ':'] := by decide
  have hnamed := (Reads.append hopen (reads_name hname)).before rfl rfl hfor
  have hnode := (Reads.append hnamed (reads_name hbinder)).before rfl rfl hcolon
  simpa using Reads.append hnode (reads_name hlabel)

/-- The path to a property of a node is a word. -/
theorem reads_path {binder property : String} (hbinder : IsName binder) (hproperty : IsName property) :
    Reads (binder ++ "." ++ property) [.word (binder ++ "." ++ property)] :=
  reads_name ((hbinder.append (by decide)).append hproperty)

theorem spelled_unique {name binder label property : String} (h : (unique name binder label property).IsSound) :
    Spelled (unique name binder label property).render
      [.word "CREATE", .word "CONSTRAINT", .word name, .word "IF", .word "NOT", .word "EXISTS", .word "FOR",
        .delimiter '(', .word binder, .delimiter ':', .word label, .delimiter ')', .word "REQUIRE",
        .word (binder ++ "." ++ property), .word "IS", .word "UNIQUE", .delimiter ';'] := by
  obtain ⟨hname, hbinder, hlabel, hproperty⟩ := h
  have hopen : Spelled "CREATE CONSTRAINT " [.word "CREATE", .word "CONSTRAINT"] := by decide
  have hrequire : Spelled ") REQUIRE " [.delimiter ')', .word "REQUIRE"] := by decide
  have hend : Spelled " IS UNIQUE;\n" [.word "IS", .word "UNIQUE", .delimiter ';'] := by decide
  have hfront := (reads_front hopen hname hbinder hlabel).before rfl rfl hrequire
  have hcommand := (Reads.append hfront (reads_path hbinder hproperty)).before rfl rfl hend
  show Spelled ("CREATE CONSTRAINT " ++ name ++ " IF NOT EXISTS FOR (" ++ binder ++ ":" ++ label ++ ") REQUIRE "
    ++ binder ++ "." ++ property ++ " IS UNIQUE;\n") _
  simpa [String.append_assoc] using hcommand

theorem spelled_index {name binder label property : String} (h : (index name binder label property).IsSound) :
    Spelled (index name binder label property).render
      [.word "CREATE", .word "INDEX", .word name, .word "IF", .word "NOT", .word "EXISTS", .word "FOR",
        .delimiter '(', .word binder, .delimiter ':', .word label, .delimiter ')', .word "ON", .delimiter '(',
        .word (binder ++ "." ++ property), .delimiter ')', .delimiter ';'] := by
  obtain ⟨hname, hbinder, hlabel, hproperty⟩ := h
  have hopen : Spelled "CREATE INDEX " [.word "CREATE", .word "INDEX"] := by decide
  have hon : Spelled ") ON (" [.delimiter ')', .word "ON", .delimiter '('] := by decide
  have hend : Spelled ");\n" [.delimiter ')', .delimiter ';'] := by decide
  have hfront := (reads_front hopen hname hbinder hlabel).before rfl rfl hon
  have hcommand := (Reads.append hfront (reads_path hbinder hproperty)).before rfl rfl hend
  show Spelled ("CREATE INDEX " ++ name ++ " IF NOT EXISTS FOR (" ++ binder ++ ":" ++ label ++ ") ON ("
    ++ binder ++ "." ++ property ++ ");\n") _
  simpa [String.append_assoc] using hcommand

theorem spelled_render (h : c.IsSound) :
    Spelled c.render (c.atoms?.toList.flatMap fun as => as ++ [Atom.delimiter ';']) := by
  have hsemicolon : Spelled ";\n" [.delimiter ';'] := by decide
  cases c with
  | comment text => exact spelled_comment rfl h
  | blank => decide
  | unique name binder label property => exact spelled_unique h
  | index name binder label property => exact spelled_index h
  | create node =>
    have hcreate : Spelled "CREATE " [.word "CREATE"] := by decide
    have hcommand := (hcreate.append (Node.spelled_render h)).append hsemicolon
    show Spelled ("CREATE " ++ node.render ++ ";\n") _
    simpa [atoms?] using hcommand
  | connect first second edge =>
    obtain ⟨hfirst, hsecond, hedge⟩ := h
    have hmatch : Spelled "MATCH " [.word "MATCH"] := by decide
    have hcomma : Spelled ", " [.delimiter ','] := by decide
    have hthen : Spelled " CREATE " [.word "CREATE"] := by decide
    have hnodes := ((hmatch.append (Node.spelled_render hfirst)).append hcomma).append (Node.spelled_render hsecond)
    have hcommand := ((hnodes.append hthen).append (Edge.spelled_render hedge)).append hsemicolon
    show Spelled ("MATCH " ++ first.render ++ ", " ++ second.render ++ " CREATE " ++ edge.render ++ ";\n") _
    simpa [atoms?] using hcommand

/-- No semicolon outside a literal belongs to a command. -/
theorem not_mem_atoms (c : Command) : ∀ as ∈ c.atoms?, .delimiter ';' ∉ as := by
  rintro as has
  cases c with
  | comment | blank => cases has
  | unique | index =>
    obtain rfl := Option.some.inj has
    simp
  | create node =>
    obtain rfl := Option.some.inj has
    simp [node.not_mem_atoms]
  | connect first second edge =>
    obtain rfl := Option.some.inj has
    simp [first.not_mem_atoms, second.not_mem_atoms, edge.not_mem_atoms]

/-- A command is found again in what it is read as. -/
theorem read?_atoms (c : Command) : c.atoms?.map Action.read? = c.action?.map some := by
  cases c with
  | comment | blank | unique | index => rfl
  | create node =>
    have hnode : Sketch.read? node.atoms = some (node.sketch, []) := by
      have hread := node.read?_atoms []
      rwa [List.append_nil] at hread
    have hcreate : Action.read? (.word "CREATE" :: node.atoms) =
        match Sketch.read? node.atoms with
        | some (node, []) => some (.create node)
        | _ => none := rfl
    rw [atoms?, Option.map_some, hcreate, hnode]
    rfl
  | connect first second edge =>
    have hedge : (Stroke.read? edge.atoms).map (Action.connect first.sketch second.sketch) =
        some (.connect first.sketch second.sketch edge.stroke) := by
      rw [edge.read?_atoms, Option.map_some]
    simp only [atoms?, action?, Option.map_some, List.cons_append, List.append_assoc, Action.read?, Node.read?_atoms,
      hedge]

end Command

/-- What the text of a script asks for is what its commands ask for. -/
theorem readActions_render {s : Script} (h : ∀ c ∈ s, c.IsSound) :
    readActions s.render = some (s.filterMap Command.action?) :=
  readAll_join (fun c hc => Command.spelled_render (h c hc)) (fun c _ => c.not_mem_atoms) fun c _ => c.read?_atoms

end MediaLanguage.Graph

import MediaLanguage.Proofs.Text.Plain
import MediaLanguage.Sql.Schema

/-!
# Outlines of SQL statements

The outline of a statement is the statement with its literals and comments empty. A statement whose names are plain and
whose comments stand on one line reads like its outline (`Statement.alike_outline`): nothing that a literal or comment
holds can be seen outside of it.
-/

namespace MediaLanguage.Sql

open Lexis

/-- The lexical rules of SQL: two dashes start a comment, and a quote in a literal is written twice. -/
def lexis : Lexis where
  mark := '-'
  pairs c d := c == '\'' && d == '\''
  dash_or_slash := .inl rfl
  pairs_quote c h := by simpa using h

/-! ## Literals -/

/-- A quote written twice does not end a literal, and no other character does. -/
theorem escapes : lexis.Escapes fun c => if c = '\'' then ['\'', '\''] else [c] := by
  intro c rest hne
  obtain ⟨d, ds, rfl⟩ := List.exists_cons_of_ne_nil hne
  by_cases hc : c = '\''
  · simp [hc, Lexis.read, lexis]
  · simp [hc, Lexis.read, lexis]

/-- Any two literals read alike. -/
theorem alike_quote (s t : String) : lexis.Alike Unquoted (quote s) (quote t) :=
  .literal escapes s.toList t.toList

/-! ## Values -/

namespace Term

/-- The value with its literal empty. -/
def outline : Term → Term
  | .null => .null
  | .integer value => .integer value
  | .number value => .number value
  | .text _ => .text ""
  | .lookup table column _ => .lookup table column ""

@[simp] theorem outline_integer (value : Int) : (integer value).outline = integer value := rfl
@[simp] theorem outline_number (value : Number) : (number value).outline = number value := rfl
@[simp] theorem outline_text (value : String) : (text value).outline = text "" := rfl

/-- The names in the value are plain. -/
def HasPlainNames : Term → Prop
  | .lookup table column _ => lexis.Plain table ∧ lexis.Plain column
  | _ => True

/-- A value reads like its outline. -/
theorem alike_outline {t : Term} (h : t.HasPlainNames) : lexis.Alike Unquoted t.render t.outline.render := by
  cases t with
  | null => exact .of_plain (by decide)
  | integer k => exact .of_plain (plain_integer k)
  | number x => exact .of_plain x.plain_text
  | text s => exact alike_quote s ""
  | lookup table column s =>
    obtain ⟨htable, hcolumn⟩ := h
    have hplain : lexis.Plain ("(SELECT id FROM " ++ table ++ " WHERE " ++ column ++ " = ") :=
      ((((by decide : lexis.Plain "(SELECT id FROM ").append htable).append (by decide)).append hcolumn).append
        (by decide)
    have hopen : lexis.Alike Unquoted ("(SELECT id FROM " ++ table ++ " WHERE " ++ column ++ " = " ++ quote s)
        ("(SELECT id FROM " ++ table ++ " WHERE " ++ column ++ " = " ++ quote "") :=
      (Alike.of_plain hplain).append (alike_quote s "")
    exact (hopen.append_code (by decide) (by decide)).unquoted

@[simp] theorem hasPlainNames_integer (k : Int) : (integer k).HasPlainNames := trivial

@[simp] theorem hasPlainNames_number (x : Number) : (number x).HasPlainNames := trivial

@[simp] theorem hasPlainNames_text (s : String) : (text s).HasPlainNames := trivial

@[simp] theorem hasPlainNames_ofValue (v : Model.Value) : (ofValue v).HasPlainNames := trivial

@[simp] theorem hasPlainNames_optional (s : Option String) : (optional s).HasPlainNames := by
  cases s <;> trivial

@[simp] theorem hasPlainNames_optionalInteger (k : Option Int) : (optionalInteger k).HasPlainNames := by
  cases k <;> trivial

@[simp] theorem hasPlainNames_optionalNumber (x : Option Number) : (optionalNumber x).HasPlainNames := by
  cases x <;> trivial

end Term

/-! ## Rows -/

/-- Names with commas between them are plain. -/
theorem plain_commas {names : List String} (h : ∀ s ∈ names, lexis.Plain s) : lexis.Plain (commas names) := by
  induction names with
  | nil => rfl
  | cons s names ih =>
    obtain ⟨hs, hnames⟩ := List.forall_mem_cons.1 h
    cases names with
    | nil => simpa [commas] using hs
    | cons t names =>
      rw [commas, String.intercalate_cons_cons]
      exact (hs.append (by decide)).append (ih hnames)

/-- The change of a row with its literals empty. -/
def Conflict.outline : Conflict → Conflict
  | .update key changes => .update key (changes.map fun (column, value) => (column, value.outline))
  | c => c

/-- The row with its literals empty. -/
def Insert.outline (i : Insert) : Insert :=
  { i with values := i.values.map Term.outline, conflict := i.conflict.outline }

/-- The names in the change of a row are plain. -/
def Conflict.HasPlainNames : Conflict → Prop
  | .update key changes =>
    (∀ s ∈ key, lexis.Plain s) ∧ ∀ change ∈ changes, lexis.Plain change.1 ∧ change.2.HasPlainNames
  | _ => True

/-- The names in a row are plain. -/
structure Insert.HasPlainNames (i : Insert) : Prop where
  table : lexis.Plain i.table
  columns : ∀ s ∈ i.columns, lexis.Plain s
  values : ∀ t ∈ i.values, t.HasPlainNames
  conflict : i.conflict.HasPlainNames

/-- The change of a row reads like its outline. -/
theorem Conflict.alike_outline {c : Conflict} (h : c.HasPlainNames) :
    lexis.Alike Unquoted c.render c.outline.render := by
  cases c with
  | fail => exact .of_plain rfl
  | skip => exact .of_plain (by decide)
  | update key changes =>
    obtain ⟨hkey, hchanges⟩ := h
    have hstart : lexis.Plain (" ON CONFLICT (" ++ commas key ++ ") DO UPDATE SET ") :=
      ((by decide : lexis.Plain " ON CONFLICT (").append (plain_commas hkey)).append (by decide)
    refine (Alike.of_plain hstart).append ?_
    rw [commas, commas, List.map_map]
    refine .intercalate (by decide) (by decide) fun change hchange => ?_
    obtain ⟨hcolumn, hvalue⟩ := hchanges change hchange
    exact (Alike.of_plain (hcolumn.append (by decide))).append (Term.alike_outline hvalue)

/-- A row reads like its outline. -/
theorem Insert.alike_outline {i : Insert} (h : i.HasPlainNames) : lexis.Alike Anything i.render i.outline.render := by
  have hstart : lexis.Plain ("INSERT INTO " ++ i.table ++ " (" ++ commas i.columns ++ ") VALUES (") :=
    ((((by decide : lexis.Plain "INSERT INTO ").append h.table).append (by decide)).append
      (plain_commas h.columns)).append (by decide)
  have hvalues : lexis.Alike Unquoted (commas (i.values.map Term.render))
      (commas ((i.values.map Term.outline).map Term.render)) := by
    rw [commas, commas, List.map_map]
    exact .intercalate (by decide) (by decide) fun t ht => Term.alike_outline (h.values t ht)
  have hrow := (((Alike.of_plain hstart).append hvalues).append_code (by decide : lexis.Plain ")") (by decide)).append
    (Conflict.alike_outline h.conflict)
  exact hrow.append_code (by decide) (by decide)

/-! ## Tables -/

/-- The text is a literal. -/
def IsLiteral (s : String) : Prop :=
  s = quote (String.ofList (s.toList.drop 1).dropLast)

/-- The names of a column are plain, its default is plain or a literal, and the comment after it stands on one line. -/
structure Column.IsSound (c : Column) : Prop where
  name : lexis.Plain c.name
  type : lexis.Plain c.type
  default : ∀ d ∈ c.default, lexis.Plain d ∨ IsLiteral d
  remark : ∀ r ∈ c.remark, OneLine r

/-- The names of an item are plain, and the comment after it stands on one line. -/
def TableItem.IsSound : TableItem → Prop
  | .column c => c.IsSound
  | .primaryKey columns => ∀ s ∈ columns, lexis.Plain s
  | .foreignKey key table target => lexis.Plain key ∧ lexis.Plain table ∧ lexis.Plain target

/-- The names of a table are plain, and its comments stand on one line. -/
structure Table.IsSound (t : Table) : Prop where
  name : lexis.Plain t.name
  items : ∀ item ∈ t.items, item.IsSound

section Decidable

instance (s : String) : Decidable (IsLiteral s) :=
  inferInstanceAs (Decidable (s = quote _))

instance (c : Column) : Decidable c.IsSound :=
  decidable_of_iff (lexis.Plain c.name ∧ lexis.Plain c.type ∧ (∀ d ∈ c.default, lexis.Plain d ∨ IsLiteral d)
    ∧ ∀ r ∈ c.remark, OneLine r)
    ⟨fun ⟨name, type, default, remark⟩ => ⟨name, type, default, remark⟩, fun h => ⟨h.name, h.type, h.default, h.remark⟩⟩

instance : DecidablePred TableItem.IsSound
  | .column c => inferInstanceAs (Decidable c.IsSound)
  | .primaryKey columns => inferInstanceAs (Decidable (∀ s ∈ columns, lexis.Plain s))
  | .foreignKey key table target =>
    inferInstanceAs (Decidable (lexis.Plain key ∧ lexis.Plain table ∧ lexis.Plain target))

instance (t : Table) : Decidable t.IsSound :=
  decidable_of_iff (lexis.Plain t.name ∧ ∀ item ∈ t.items, item.IsSound)
    ⟨fun ⟨name, items⟩ => ⟨name, items⟩, fun h => ⟨h.name, h.items⟩⟩

end Decidable

/-- The definition of a column reads like itself. -/
theorem Column.alike_definition {c : Column} (h : c.IsSound) :
    lexis.Alike Unquoted c.definition c.definition := by
  have hstart : lexis.Plain (c.name ++ " " ++ c.type ++ (if c.primaryKey then " PRIMARY KEY" else "")
      ++ (if c.notNull then " NOT NULL" else "")) := by
    refine Plain.append (Plain.append ((h.name.append (by decide)).append h.type) ?_) ?_
    · split <;> decide
    · split <;> decide
  refine (Alike.of_plain hstart).append ?_
  cases hdefault : c.default with
  | none =>
    show lexis.Alike Unquoted "" ""
    exact .of_plain rfl
  | some d =>
    show lexis.Alike Unquoted (" DEFAULT " ++ d) (" DEFAULT " ++ d)
    apply Alike.append (.of_plain (by decide))
    obtain hd | hd := h.default d hdefault
    · exact .of_plain hd
    · rw [IsLiteral] at hd
      rw [hd]
      exact alike_quote _ _

/-- The definition of an item reads like itself, and the comment after it stands on one line. -/
theorem TableItem.alike_definition {item : TableItem} (h : item.IsSound) :
    lexis.Alike Unquoted item.definition.1 item.definition.1 ∧ ∀ r ∈ item.definition.2, OneLine r := by
  cases item with
  | column c => exact ⟨Column.alike_definition h, h.remark⟩
  | primaryKey columns =>
    refine ⟨.of_plain ?_, fun r hr => nomatch hr⟩
    exact ((by decide : lexis.Plain "PRIMARY KEY (").append (plain_commas h)).append (by decide)
  | foreignKey key table target =>
    obtain ⟨hkey, htable, htarget⟩ := h
    refine ⟨.of_plain ?_, fun r hr => nomatch hr⟩
    have hstart : lexis.Plain ("FOREIGN KEY (" ++ key ++ ") REFERENCES " ++ table) :=
      (((by decide : lexis.Plain "FOREIGN KEY (").append hkey).append (by decide)).append htable
    exact ((hstart.append (by decide)).append htarget).append (by decide)

/-- Lines that read like themselves, as one text. -/
theorem alike_unlines {ls : List String} (h : ∀ l ∈ ls, lexis.Alike Anything (l ++ "\n") (l ++ "\n")) :
    lexis.Alike Anything (Text.unlines ls ++ "\n") (Text.unlines ls ++ "\n") := by
  induction ls with
  | nil => exact .of_plain (by decide)
  | cons l ls ih =>
    obtain ⟨hl, hls⟩ := List.forall_mem_cons.1 h
    cases ls with
    | nil => simpa [Text.unlines] using hl
    | cons m ms =>
      rw [Text.unlines, String.intercalate_cons_cons, String.append_assoc]
      exact hl.append (ih hls)

/-- A line of a table: a definition, perhaps a comma, and perhaps a comment. -/
theorem alike_definitionLine {definition separator : String} {remark : Option String}
    (hdefinition : lexis.Alike Unquoted definition definition) (hseparator : lexis.Plain separator)
    (hremark : ∀ r ∈ remark, OneLine r) :
    lexis.Alike Anything ("    " ++ definition ++ separator ++ (remark.map (" -- " ++ ·)).getD "" ++ "\n")
      ("    " ++ definition ++ separator ++ (remark.map (" -- " ++ ·)).getD "" ++ "\n") := by
  have hstart : lexis.Alike Unquoted ("    " ++ definition) ("    " ++ definition) :=
    (Alike.of_plain (by decide)).append hdefinition
  cases remark with
  | none =>
    have hline := hstart.append_code (hseparator.append (by decide : lexis.Plain "\n")) (by simp)
    simpa [String.append_assoc] using hline
  | some r =>
    have hcomment : lexis.Alike Anything ("-- " ++ r ++ "\n") ("-- " ++ r ++ "\n") :=
      .comment rfl (hremark r rfl) (hremark r rfl)
    have hline := (hstart.append_code (hseparator.append (by decide : lexis.Plain " ")) (by simp)).append hcomment
    have hopening : " -- " ++ r = " " ++ ("-- " ++ r) := by
      rw [← String.append_assoc]
      rfl
    simpa only [Option.map_some, Option.getD_some, hopening, String.append_assoc] using hline

/-- Definitions on lines of their own. -/
theorem alike_definitionLines {definitions : List (String × Option String)}
    (h : ∀ d ∈ definitions, lexis.Alike Unquoted d.1 d.1 ∧ ∀ r ∈ d.2, OneLine r) :
    ∀ l ∈ definitionLines definitions, lexis.Alike Anything (l ++ "\n") (l ++ "\n") := by
  fun_induction definitionLines definitions with
  | case1 => simp
  | case2 definition remark rest separator comment ih =>
    obtain ⟨⟨hdefinition, hremark⟩, hrest⟩ := List.forall_mem_cons.1 h
    refine List.forall_mem_cons.2 ⟨alike_definitionLine hdefinition ?_ hremark, ih hrest⟩
    show lexis.Plain (if rest.isEmpty then "" else ",")
    split <;> decide

/-- The definition of a table reads like itself. -/
theorem Table.alike_items {t : Table} (h : t.IsSound) :
    lexis.Alike Anything (definitionBlock (t.items.map TableItem.definition) ++ "\n")
      (definitionBlock (t.items.map TableItem.definition) ++ "\n") := by
  apply alike_unlines
  apply alike_definitionLines
  intro d hd
  obtain ⟨item, hitem, rfl⟩ := List.mem_map.1 hd
  exact TableItem.alike_definition (h.items item hitem)

/-! ## Statements -/

namespace Statement

/-- The statement with its literals and comments empty. -/
def outline : Statement → Statement
  | .comment _ => .comment ""
  | .blank => .blank
  | .createSchema name => .createSchema name
  | .createTable onlyIfMissing table => .createTable onlyIfMissing table
  | .insert i => .insert i.outline

@[simp] theorem outline_comment (text : String) : (comment text).outline = comment "" := rfl

/-- The names of a statement are plain, and its comments stand on one line. -/
def IsSound : Statement → Prop
  | .comment text => OneLine text
  | .blank => True
  | .createSchema name => lexis.Plain name
  | .createTable _ table => table.IsSound
  | .insert i => i.HasPlainNames

/-- The definition of a table, its items on lines that end. -/
theorem render_createTable (onlyIfMissing : Bool) (table : Table) :
    (createTable onlyIfMissing table).render =
      "CREATE TABLE " ++ (if onlyIfMissing then "IF NOT EXISTS " else "") ++ table.name ++ " (\n"
        ++ (definitionBlock (table.items.map TableItem.definition) ++ "\n") ++ ");\n" := by
  have hend : ∀ start block : String, start ++ block ++ "\n);\n" = start ++ (block ++ "\n") ++ ");\n" := by
    intro start block
    simp only [String.append_assoc]
    rfl
  exact hend _ _

/-- A statement reads like its outline. -/
theorem alike_outline {s : Statement} (h : s.IsSound) : lexis.Alike Anything s.render s.outline.render := by
  cases s with
  | comment text => exact Alike.comment rfl h (by decide)
  | blank => exact .of_plain (by decide)
  | createSchema name =>
    exact .of_plain (((by decide : lexis.Plain "CREATE SCHEMA IF NOT EXISTS ").append h).append (by decide))
  | createTable onlyIfMissing table =>
    have hstart : lexis.Plain ("CREATE TABLE " ++ (if onlyIfMissing then "IF NOT EXISTS " else "") ++ table.name
        ++ " (\n") := by
      refine ((Plain.append (by decide) ?_).append h.name).append (by decide)
      split <;> decide
    have hclose : lexis.Alike Anything ");\n" ");\n" := .of_plain (by decide)
    have htable := ((Alike.of_plain hstart).append (Table.alike_items h)).append hclose
    rw [outline, render_createTable]
    exact htable
  | insert i => exact (Insert.alike_outline h).append (.of_plain (by decide))

end Statement

/-- A script whose statements are sound reads like its outline. -/
theorem Script.alike_outline {s : Script} (h : ∀ statement ∈ s, statement.IsSound) :
    lexis.Alike Anything s.render (Script.render (s.map Statement.outline)) := by
  rw [render, render, List.map_map]
  exact .join fun statement hstatement => statement.alike_outline (h statement hstatement)

end MediaLanguage.Sql

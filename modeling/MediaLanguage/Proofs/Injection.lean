import MediaLanguage.Proofs.Graph.Script
import MediaLanguage.Proofs.Graph.Soundness
import MediaLanguage.Proofs.Parser.Provenance
import MediaLanguage.Proofs.Sql.Script
import MediaLanguage.Proofs.Sql.Soundness
import MediaLanguage.Proofs.Token.Leaves

/-!
# Quoted texts cannot change a script

Two texts whose programs have the same outline, so that they are equal but for what their quoted texts and comments
hold, are written as scripts that read as the same code, with literals and comments at the same places
(`pieces_eq_of_outline_eq`). A quoted text may hold anything if the script writes it in a literal. What a comment
shows has to stand on one line: the rest of it would be read as code (`not_pieces_eq_of_lineBreak`).

The proof goes through the outlines of the scripts. The outline of the program determines the outline of the script,
and a script reads like its outline if its names are words, which they are because the text writes them without
quotes.
-/

namespace MediaLanguage

namespace Ast

/-! ## Where names come from -/

section Names

variable {n : String}

/-- The name that a comment shows of a value is a leaf of the value. -/
theorem Expr.mem_leaves_of_mem_shownNames {e : Expr} (h : n ∈ e.lower.shownNames) : .name n ∈ e.leaves := by
  cases e with
  | reference name position =>
    rw [List.mem_singleton.1 h]
    exact List.mem_singleton_self _
  | string => cases h
  | number => cases h
  | boolean => cases h
  | object => cases h

/-- The name of a binding and the one that a comment shows of its value are leaves. -/
theorem mem_leaves_of_mem_binding {name : String} {e : Expr} (h : n ∈ name :: e.lower.shownNames) :
    .name n ∈ Leaf.name name :: e.leaves := by
  obtain rfl | h := List.mem_cons.1 h
  · exact List.mem_cons_self
  · exact List.mem_cons_of_mem _ (Expr.mem_leaves_of_mem_shownNames h)

/-- The names of the assignments among fields are leaves of the fields. -/
theorem mem_leaves_of_mem_lowerFields {fields : List Field} {f : Model.Assignment} (hf : f ∈ lowerFields fields)
    (h : n ∈ f.name :: f.value.shownNames) : .name n ∈ fields.flatMap Field.leaves := by
  obtain ⟨a, ha, rfl⟩ := List.mem_map.1 hf
  obtain ⟨field, hfield, hassignment⟩ := List.mem_filterMap.1 ha
  refine List.mem_flatMap.2 ⟨field, hfield, ?_⟩
  cases field with
  | assignment b =>
    cases hassignment
    exact mem_leaves_of_mem_binding h
  | comment => cases hassignment

/-- The names of a block of a template are leaves of the block. -/
theorem Block.mem_leaves_of_mem_templateFields {b : Block} {block : Model.TemplateBlock}
    (hb : b.lowerTemplate? = some block) {f : Model.Assignment} (hf : f ∈ block.fields)
    (h : n ∈ f.name :: f.value.shownNames) : .name n ∈ b.leaves := by
  cases b with
  | characteristics b =>
    cases hb
    exact mem_leaves_of_mem_lowerFields hf h
  | metadata b =>
    cases hb
    exact mem_leaves_of_mem_lowerFields hf h
  | identity => cases hb
  | lifecycle => cases hb
  | comment => cases hb

variable {p : Program}

/-- The names of a unit are leaves of it. -/
theorem UnitDeclaration.mem_leaves_of_mem_names {u : UnitDeclaration}
    (h : n ∈ u.lower.name :: u.lower.columns.map Model.Column.name) : .name n ∈ u.leaves := by
  obtain rfl | h := List.mem_cons.1 h
  · exact List.mem_cons_self
  · obtain ⟨column, hcolumn, rfl⟩ := List.mem_map.1 h
    obtain ⟨f, hf, rfl⟩ := List.mem_map.1 hcolumn
    exact List.mem_cons_of_mem _ (List.mem_map.2 ⟨f, hf, rfl⟩)

/-- The names that the relational script writes outside literals are leaves of the program. -/
theorem Program.mem_leaves_of_mem_sqlNames (h : n ∈ Sql.writtenNames p.toModel) : .name n ∈ p.leaves := by
  simp only [Sql.writtenNames, toModel, bindings, units, vocabularies, templates, List.mem_append, List.mem_flatMap,
    List.mem_map, List.mem_filterMap, exists_exists_and_eq_and] at h
  obtain ((⟨d, ⟨s, hs, hd⟩, h⟩ | ⟨d, ⟨s, hs, hd⟩, h⟩) | ⟨d, ⟨s, hs, hd⟩, h⟩) | ⟨d, ⟨s, hs, hd⟩, h⟩ := h <;>
    refine List.mem_flatMap.2 ⟨s, hs, ?_⟩ <;> split at hd <;> cases hd
  · exact mem_leaves_of_mem_binding h
  · exact d.mem_leaves_of_mem_names h
  · rw [← h]
    exact List.mem_cons_self
  · obtain ⟨block, hblock, f, hf, h⟩ := h
    obtain ⟨b, hb, hlower⟩ := List.mem_filterMap.1 hblock
    exact List.mem_flatMap.2 ⟨b, hb, b.mem_leaves_of_mem_templateFields hlower hf h⟩

/-- The graph script writes no name outside literals that the relational script does not write. -/
theorem mem_sqlNames_of_mem_graphNames {m : Model.Program} (h : n ∈ Graph.writtenNames m) :
    n ∈ Sql.writtenNames m := by
  obtain h | h := List.mem_append.1 h
  · exact List.mem_append_left _ (List.mem_append_left _ (List.mem_append_left _ h))
  · exact List.mem_append_left _ (List.mem_append_right _ h)

end Names

end Ast

open Ast

/-! ## Scripts of texts -/

section Script

variable {a b : String} {p q : Program}

/-- The names of a program that is read are names. -/
theorem isName_of_parse (hp : parse a = .ok p) {n : String} (hn : .name n ∈ p.leaves) : IsName n := by
  obtain ⟨s, hs, -⟩ := parse_eq_ok_iff.1 hp
  obtain ⟨t, ht, hleaf⟩ := exists_token_of_parse hs hp hn
  exact isWritten_of_tokenize hs ht hleaf

/-- Programs with the same outline have models with the same outline. -/
theorem outline_toModel_eq (h : p.outline = q.outline) : p.toModel.outline = q.toModel.outline := by
  rw [← p.toModel_outline, h, q.toModel_outline]

/-- The relational script of a text is sound, and can be read. -/
theorem isProper_sqlScript (hp : parse a = .ok p) (htexts : ∀ s ∈ Sql.shownTexts p.toModel, OneLine s) :
    ∀ s ∈ Sql.script p.toModel, s.IsProper :=
  Sql.isProper_script htexts fun _ hn => isName_of_parse hp (p.mem_leaves_of_mem_sqlNames hn)

/-- The graph script of a text is sound. -/
theorem isSound_graphScript (hp : parse a = .ok p) (htexts : ∀ s ∈ Graph.shownTexts p.toModel, OneLine s) :
    ∀ c ∈ Graph.script p.toModel, c.IsSound :=
  Graph.isSound_script htexts fun _ hn =>
    (isName_of_parse hp (p.mem_leaves_of_mem_sqlNames (mem_sqlNames_of_mem_graphNames hn))).2

theorem sql_pieces_eq (hp : parse a = .ok p) (hq : parse b = .ok q) (houtline : p.outline = q.outline)
    (hp_texts : ∀ s ∈ Sql.shownTexts p.toModel, OneLine s) (hq_texts : ∀ s ∈ Sql.shownTexts q.toModel, OneLine s) :
    Sql.lexis.pieces (Sql.Script.render (Sql.script p.toModel)) =
      Sql.lexis.pieces (Sql.Script.render (Sql.script q.toModel)) := by
  have hscript :
      (Sql.script p.toModel).map Sql.Statement.outline = (Sql.script q.toModel).map Sql.Statement.outline := by
    rw [← Sql.map_outline_script, outline_toModel_eq houtline, Sql.map_outline_script]
  have hp_sound := fun s hs => (isProper_sqlScript hp hp_texts s hs).sound
  have hq_sound := fun s hs => (isProper_sqlScript hq hq_texts s hs).sound
  rw [(Sql.Script.alike_outline hp_sound).pieces_eq, hscript, ← (Sql.Script.alike_outline hq_sound).pieces_eq]

theorem graph_pieces_eq (hp : parse a = .ok p) (hq : parse b = .ok q) (houtline : p.outline = q.outline)
    (hp_texts : ∀ s ∈ Graph.shownTexts p.toModel, OneLine s)
    (hq_texts : ∀ s ∈ Graph.shownTexts q.toModel, OneLine s) :
    Graph.lexis.pieces (Graph.Script.render (Graph.script p.toModel)) =
      Graph.lexis.pieces (Graph.Script.render (Graph.script q.toModel)) := by
  have hscript :
      (Graph.script p.toModel).map Graph.Command.outline = (Graph.script q.toModel).map Graph.Command.outline := by
    rw [← Graph.map_outline_script, outline_toModel_eq houtline, Graph.map_outline_script]
  rw [(Graph.Script.alike_outline (isSound_graphScript hp hp_texts)).pieces_eq, hscript,
    ← (Graph.Script.alike_outline (isSound_graphScript hq hq_texts)).pieces_eq]

/-- Texts whose programs are equal but for what their quoted texts hold have scripts with the same code, if comments
show what stands on one line. -/
theorem pieces_eq_of_outline_eq (hp : parse a = .ok p) (hq : parse b = .ok q) (houtline : p.outline = q.outline) :
    ((∀ s ∈ Sql.shownTexts p.toModel ++ Sql.shownTexts q.toModel, OneLine s) →
      Sql.lexis.pieces (Sql.Script.render (Sql.script p.toModel)) =
        Sql.lexis.pieces (Sql.Script.render (Sql.script q.toModel))) ∧
    ((∀ s ∈ Graph.shownTexts p.toModel ++ Graph.shownTexts q.toModel, OneLine s) →
      Graph.lexis.pieces (Graph.Script.render (Graph.script p.toModel)) =
        Graph.lexis.pieces (Graph.Script.render (Graph.script q.toModel))) := by
  constructor
  · intro htexts
    obtain ⟨hp_texts, hq_texts⟩ := List.forall_mem_append.1 htexts
    exact sql_pieces_eq hp hq houtline hp_texts hq_texts
  · intro htexts
    obtain ⟨hp_texts, hq_texts⟩ := List.forall_mem_append.1 htexts
    exact graph_pieces_eq hp hq houtline hp_texts hq_texts

end Script

/-- A family of an outlet with a title. -/
def titledProgram (family outlet title : String) (outletAt blockAt fieldAt titleAt : Position) : Program :=
  ⟨[.family ⟨family, [.outlet ⟨outlet, none, [.identity ⟨[.assignment ⟨"title", .string title titleAt, fieldAt⟩],
    blockAt⟩], outletAt⟩], ⟨1, 1, 0⟩⟩]⟩

/-- A text for such a family. -/
def harmlessSource : String :=
  "family \"F\" \x7b outlet \"A\" \x7b identity \x7b title = \"A\"; \x7d \x7d \x7d"

/-- The same with names that would end a literal, and a title on two lines. -/
def hostileSource : String :=
  "family \"F'); DROP TABLE families; --\" \x7b outlet \"A\\\\\" \x7b identity \x7b title = \"'\\n;\"; \x7d \x7d \x7d"

theorem parse_harmlessSource :
    parse harmlessSource = .ok (titledProgram "F" "A" "A" ⟨1, 14, 13⟩ ⟨1, 27, 26⟩ ⟨1, 38, 37⟩ ⟨1, 46, 45⟩) := by
  cbv

theorem parse_hostileSource :
    parse hostileSource = .ok (titledProgram "F'); DROP TABLE families; --" "A\\" "'\n;"
      ⟨1, 41, 40⟩ ⟨1, 56, 55⟩ ⟨1, 67, 66⟩ ⟨1, 75, 74⟩) := by
  cbv

/-- The names and the title stay in their literals, and the names in their comments. -/
theorem pieces_eq_hostileSource :
    ∃ p q, parse harmlessSource = .ok p ∧ parse hostileSource = .ok q ∧ p.outline = q.outline ∧
      (∀ s ∈ Sql.shownTexts p.toModel ++ Sql.shownTexts q.toModel, OneLine s) ∧
      (∀ s ∈ Graph.shownTexts p.toModel ++ Graph.shownTexts q.toModel, OneLine s) ∧
      Sql.lexis.pieces (Sql.Script.render (Sql.script p.toModel)) =
        Sql.lexis.pieces (Sql.Script.render (Sql.script q.toModel)) ∧
      Graph.lexis.pieces (Graph.Script.render (Graph.script p.toModel)) =
        Graph.lexis.pieces (Graph.Script.render (Graph.script q.toModel)) := by
  have hboth := pieces_eq_of_outline_eq parse_harmlessSource parse_hostileSource rfl
  refine ⟨_, _, parse_harmlessSource, parse_hostileSource, rfl, by decide, by decide, hboth.1 ?_, hboth.2 ?_⟩
  · decide
  · decide

/-! ## Line breaks in comments -/

section LineBreak

variable {L : Lexis} {opening front front' s t u : String} {c : Char} {cs : List Char}

/-- What a reader finds after a line that is a comment. -/
theorem Lexis.pieces_line {ps : List Lexis.Piece} (hfront : L.Spells Anything front ps)
    (hopening : opening.toList = [L.mark, L.mark, ' ']) (hs : OneLine s) (rest : String) :
    L.pieces (front ++ (opening ++ s ++ "\n") ++ rest) =
      ps ++ [Piece.comment, Piece.code '\n'] ++ L.pieces rest := by
  have hlines := hfront.append (Spells.comment hopening hs) rest.toList trivial
  rwa [← String.toList_append] at hlines

/-- A text that starts with a word starts with code. -/
theorem Lexis.head?_pieces_word (hs : s.toList = c :: cs) (hc : isNameChar c) :
    (L.pieces s).head? = some (.code c) := by
  obtain ⟨-, hmark, -⟩ := L.mark_cases
  have hquote : c ≠ '\'' := by
    rintro rfl
    exact absurd hc (by decide)
  have hno : c ≠ L.mark := by
    rintro rfl
    exact absurd hc (by simp [hmark])
  simp [pieces, hs, Lexis.read, hquote, hno]

/-- An empty line is code. -/
theorem Lexis.head?_pieces_blank (rest : String) : (L.pieces ("\n" ++ rest)).head? = some (.code '\n') := by
  have hno : '\n' ≠ L.mark := by
    obtain h | h := L.dash_or_slash <;> rw [h] <;> decide
  simp [pieces, Lexis.read, hno]

/-- A script that shows a path of two lines in a comment, and one that shows a path of one line: the second line of
the path is code. -/
theorem Lexis.pieces_import_ne (hfront : L.Alike Anything front front')
    (hopening : opening.toList = [L.mark, L.mark, ' ']) (hs : OneLine s) (hu : OneLine u) (ht : t.toList = c :: cs)
    (hc : isNameChar c) (rest rest' : String) :
    L.pieces (front ++ (opening ++ ("IMPORT \"" ++ (s ++ "\n" ++ t) ++ "\"") ++ "\n" ++ ("\n" ++ rest))) ≠
      L.pieces (front ++ (opening ++ ("IMPORT \"" ++ u ++ "\"") ++ "\n" ++ ("\n" ++ rest'))) := by
  obtain ⟨ps, hfront, -⟩ := hfront
  have hshown : OneLine ("IMPORT \"" ++ s) := (by decide : OneLine "IMPORT \"").append hs
  have hshown' : OneLine ("IMPORT \"" ++ u ++ "\"") := ((by decide : OneLine "IMPORT \"").append hu).append (by decide)
  -- The comment ends with the first line of the path.
  have htwo : front ++ (opening ++ ("IMPORT \"" ++ (s ++ "\n" ++ t) ++ "\"") ++ "\n" ++ ("\n" ++ rest)) =
      front ++ (opening ++ ("IMPORT \"" ++ s) ++ "\n") ++ (t ++ ("\"\n\n" ++ rest)) := by
    simp only [String.append_assoc]
    rfl
  have hone : front ++ (opening ++ ("IMPORT \"" ++ u ++ "\"") ++ "\n" ++ ("\n" ++ rest')) =
      front ++ (opening ++ ("IMPORT \"" ++ u ++ "\"") ++ "\n") ++ ("\n" ++ rest') := by
    simp only [String.append_assoc]
  have hword : (L.pieces (t ++ ("\"\n\n" ++ rest))).head? = some (.code c) :=
    head?_pieces_word (by rw [String.toList_append, ht, List.cons_append]) hc
  rw [htwo, hone, pieces_line hfront hopening hshown, pieces_line hfront hopening hshown']
  intro h
  rw [List.append_cancel_left h, head?_pieces_blank] at hword
  cases hword
  exact absurd hc (by decide)

end LineBreak

section Import

variable {m : Model.Program} {path : String}

/-- Two lines of a script, and what stands in front of them and behind them. -/
theorem join_map_append_cons {α : Type} (render : α → String) (front rest : List α) (x y : α) :
    String.join ((front ++ x :: y :: rest).map render) =
      String.join (front.map render) ++ (render x ++ (render y ++ String.join (rest.map render))) := by
  simp only [List.map_append, List.map_cons, String.join_append, String.join_cons]

/-- The relational script of a model with one import shows it in a comment behind the header. -/
theorem Sql.exists_render_of_import (h : m.imports = [path]) :
    ∃ rest, Script.render (script m) = Script.render (headerScript ++ [Statement.comment "IMPORTS"]) ++
      ("-- " ++ ("IMPORT \"" ++ path ++ "\"") ++ "\n" ++ ("\n" ++ rest)) := by
  have hscript : ∃ rest, script m = headerScript ++ [Statement.comment "IMPORTS"] ++
      Statement.comment ("IMPORT \"" ++ path ++ "\"") :: .blank :: rest := by
    simp only [script, importScript, h, List.append_assoc]
    exact ⟨_, rfl⟩
  obtain ⟨rest, hrest⟩ := hscript
  refine ⟨Script.render rest, ?_⟩
  rw [hrest]
  exact join_map_append_cons Statement.render _ rest _ _

/-- The graph script of a model with one import shows it in a comment behind the header. -/
theorem Graph.exists_render_of_import (h : m.imports = [path]) :
    ∃ rest, Script.render (script m) = Script.render (headerScript ++ [Command.comment "IMPORTS"]) ++
      ("// " ++ ("IMPORT \"" ++ path ++ "\"") ++ "\n" ++ ("\n" ++ rest)) := by
  have hscript : ∃ rest, script m = headerScript ++ [Command.comment "IMPORTS"] ++
      Command.comment ("IMPORT \"" ++ path ++ "\"") :: .blank :: rest := by
    simp only [script, importScript, h, List.append_assoc]
    exact ⟨_, rfl⟩
  obtain ⟨rest, hrest⟩ := hscript
  refine ⟨Script.render rest, ?_⟩
  rw [hrest]
  exact join_map_append_cons Command.render _ rest _ _

variable {m' : Model.Program} {s t u : String} {c : Char} {cs : List Char}

/-- Relational scripts with an import of two lines and with one of one line. -/
theorem Sql.pieces_import_ne (h : m.imports = [s ++ "\n" ++ t]) (h' : m'.imports = [u]) (hs : OneLine s)
    (hu : OneLine u) (ht : t.toList = c :: cs) (hc : isNameChar c) :
    lexis.pieces (Script.render (script m)) ≠ lexis.pieces (Script.render (script m')) := by
  obtain ⟨rest, hrest⟩ := exists_render_of_import h
  obtain ⟨rest', hrest'⟩ := exists_render_of_import h'
  have hheader : ∀ s ∈ headerScript ++ [Statement.comment "IMPORTS"], s.IsSound :=
    List.forall_mem_append.2 ⟨fun s hs => (isProper_headerScript s hs).sound,
      List.forall_mem_singleton.2 (by decide : OneLine "IMPORTS")⟩
  rw [hrest, hrest']
  exact Lexis.pieces_import_ne (Script.alike_outline hheader) rfl hs hu ht hc rest rest'

/-- Graph scripts with an import of two lines and with one of one line. -/
theorem Graph.pieces_import_ne (h : m.imports = [s ++ "\n" ++ t]) (h' : m'.imports = [u]) (hs : OneLine s)
    (hu : OneLine u) (ht : t.toList = c :: cs) (hc : isNameChar c) :
    lexis.pieces (Script.render (script m)) ≠ lexis.pieces (Script.render (script m')) := by
  obtain ⟨rest, hrest⟩ := exists_render_of_import h
  obtain ⟨rest', hrest'⟩ := exists_render_of_import h'
  have hheader : ∀ c ∈ headerScript ++ [Command.comment "IMPORTS"], c.IsSound :=
    List.forall_mem_append.2 ⟨isSound_headerScript, List.forall_mem_singleton.2 (by decide : OneLine "IMPORTS")⟩
  rw [hrest, hrest']
  exact Lexis.pieces_import_ne (Script.alike_outline hheader) rfl hs hu ht hc rest rest'

end Import

/-- An import. -/
def importSource : String :=
  "import \"a\";"

/-- An import whose path has two lines, the second of them a statement. -/
def droppingSource : String :=
  "import \"a\\nDROP TABLE families; --\";"

theorem parse_importSource : parse importSource = .ok ⟨[.importFile ⟨"a", ⟨1, 1, 0⟩⟩]⟩ := by
  cbv

theorem parse_droppingSource :
    parse droppingSource = .ok ⟨[.importFile ⟨"a\nDROP TABLE families; --", ⟨1, 1, 0⟩⟩]⟩ := by
  cbv

/-- Not all texts whose programs are equal but for what their quoted texts hold have scripts with the same code. -/
theorem not_pieces_eq_of_lineBreak :
    ∃ p q, parse droppingSource = .ok p ∧ parse importSource = .ok q ∧ p.outline = q.outline ∧
      Sql.lexis.pieces (Sql.Script.render (Sql.script p.toModel)) ≠
        Sql.lexis.pieces (Sql.Script.render (Sql.script q.toModel)) ∧
      Graph.lexis.pieces (Graph.Script.render (Graph.script p.toModel)) ≠
        Graph.lexis.pieces (Graph.Script.render (Graph.script q.toModel)) := by
  refine ⟨_, _, parse_droppingSource, parse_importSource, rfl, ?_, ?_⟩
  · exact Sql.pieces_import_ne (s := "a") (t := "DROP TABLE families; --") rfl rfl (by decide) (by decide) rfl rfl
  · exact Graph.pieces_import_ne (s := "a") (t := "DROP TABLE families; --") rfl rfl (by decide) (by decide) rfl rfl

end MediaLanguage

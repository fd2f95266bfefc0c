import MediaLanguage.Anmi.Script
import MediaLanguage.Graph.Script
import MediaLanguage.Proofs.Sql.Execution
import MediaLanguage.Proofs.Text.Quoting
import MediaLanguage.Proofs.Validation.Duplicates
import MediaLanguage.Sql.Script

/-!
# Codes of vocabularies

The bodies of a vocabulary are written one after the other, into one table or as the entries of one node. A program
that passes has no key twice in a body, however the keys are given; keys that are different as texts have different
literals, and different numbers have different texts.

* `nodup_keys`: the keys of a body of a program that passes.
* `Sql.writtenIn_vocabularyScript`, `Graph.createdKeys_vocabularyScript` and `Anmi.writtenIn_vocabularyScript`: what the
  scripts of a vocabulary write for its keys.
* `codes_distinct`: the codes, keys and numbers that are written for a body are different.
-/

namespace MediaLanguage

open Ast

/-! ## Keys of a body -/

/-- The keys of a body of a program that passes are different. -/
theorem nodup_keys {p : Program} (h : p.Passes) {d : Vocabulary} (hd : d ∈ p.vocabularies) {b : VocabularyBody}
    (hb : b ∈ d.bodies) : (b.entries.map fun e => e.key.text).Nodup := by
  rw [← repeats_eq_nil_iff, repeats_eq_map_recurrences, List.map_eq_nil_iff, List.eq_nil_iff_forall_not_mem]
  intro x hx
  have hreported : b.keyRepeated (["Program"] ++ [s!"Vocabulary({d.name})"]) x.1 ∈
      (Validator.run {} p).verdict.ofCode "VOCAB_DUPLICATE_KEY" := by
    rw [(reportsRepetition_verdict p).keys]
    exact List.mem_flatMap.2 ⟨d, hd, List.mem_flatMap.2 ⟨b, hb, List.mem_map_of_mem hx⟩⟩
  exact passes_iff.1 h _ (List.mem_of_mem_filter hreported) rfl

/-- The number that a key is, as it is written. -/
def VocabularyKey.numericText? : VocabularyKey → Option String
  | .number x => some x.text
  | .quoted _ => none

/-- What is written for the keys of a body. -/
def Ast.VocabularyBody.codes (code? : VocabularyKey → Option String) (b : VocabularyBody) : List String :=
  b.entries.filterMap fun e => code? e.key

/-- Different keys have different codes, if a code determines the text of its key. -/
theorem nodup_codes {code? : VocabularyKey → Option String} {b : VocabularyBody}
    (hcode : ∀ k k' c, code? k = some c → code? k' = some c → k.text = k'.text)
    (h : (b.entries.map fun e => e.key.text).Nodup) : (b.codes code?).Nodup := by
  refine List.Pairwise.filterMap _ (fun e e' hne c hc c' hc' heq => ?_) (List.pairwise_map.1 h)
  subst heq
  exact hne (hcode _ _ c hc hc')

/-- Codes are written for the bodies one after the other, each without repetition. -/
structure DistinctByBody (bodies : List VocabularyBody) (code? : VocabularyKey → Option String)
    (written : List String) : Prop where
  written : written = bodies.flatMap (VocabularyBody.codes code?)
  distinct : ∀ b ∈ bodies, (b.codes code?).Nodup

/-- What is written for the entries of all bodies. -/
theorem distinctByBody {p : Program} (h : p.Passes) {d : Vocabulary} (hd : d ∈ p.vocabularies)
    {code? : VocabularyKey → Option String}
    (hcode : ∀ k k' c, code? k = some c → code? k' = some c → k.text = k'.text) :
    DistinctByBody d.bodies code? (d.lower.entries.filterMap fun e => code? e.key) where
  written := by
    rw [Vocabulary.lower, List.filterMap_flatMap]
    simp only [List.filterMap_map]
    rfl
  distinct := fun _ hb => nodup_codes hcode (nodup_keys h hd hb)

/-- The number that a key is, as it is written, is the text of the key. -/
theorem VocabularyKey.numericText?_eq_some {k : VocabularyKey} {c : String} (h : k.numericText? = some c) :
    k.text = c := by
  cases k with
  | number => exact Option.some.inj h
  | quoted => cases h

/-- Literals for the entries of all bodies. -/
theorem distinctByBody_literal {p : Program} (h : p.Passes) {d : Vocabulary} (hd : d ∈ p.vocabularies)
    {quote : String → String} (hquote : Function.Injective quote) :
    DistinctByBody d.bodies (fun k => some (quote k.text)) (d.lower.entries.map fun e => quote e.key.text) := by
  have hwritten := distinctByBody h hd fun k k' c (hk : some (quote k.text) = some c) hk' =>
    hquote ((Option.some.inj hk).trans (Option.some.inj hk').symm)
  rwa [List.filterMap_eq_map'] at hwritten

/-! ## What scripts write for a vocabulary -/

/-- The value that a statement inserts into a column of a table, as it is written. -/
def Sql.Statement.writtenIn? (table column : String) (st : Sql.Statement) : Option String :=
  (st.insertInto? table).bind fun i => (i.value? column).map Sql.Term.render

/-- The values that a script inserts into a column of a table, as they are written. -/
def Sql.Script.writtenIn (table column : String) (s : Sql.Script) : List String :=
  s.filterMap (Sql.Statement.writtenIn? table column)

/-- The key of a node that is an entry of a vocabulary, as it is written. -/
def Graph.Node.entryKey? (n : Graph.Node) : Option String :=
  if n.label = "VocabularyEntry" then (n.properties.lookup "key").map Graph.Term.render else none

/-- The key of the entry that a command creates. -/
def Graph.Command.createdKey? : Graph.Command → Option String
  | .create n => n.entryKey?
  | _ => none

/-- The key by which a command finds an entry. -/
def Graph.Command.foundKey? : Graph.Command → Option String
  | .connect _ n _ => n.entryKey?
  | _ => none

section Scripts

variable (v : Model.Vocabulary)

/-- The codes of the rows of a vocabulary. -/
theorem Sql.writtenIn_vocabularyScript :
    Sql.Script.writtenIn (Text.lowercase v.name) "code" (Sql.vocabularyScript v) =
      v.entries.map fun e => Sql.quote e.key.text := by
  have hrow : ∀ x : Model.VocabularyEntry × Nat,
      (Sql.entryRow (Text.lowercase v.name) x.1 x.2).writtenIn? (Text.lowercase v.name) "code" =
        some (Sql.quote x.1.key.text) := by
    intro x
    rw [Sql.entryRow, Sql.Statement.row, Sql.Statement.writtenIn?, Sql.Statement.insertInto?, if_pos rfl]
    rfl
  have hrows : (v.entries.zipIdx 1).filterMap (fun x => some (Sql.quote x.1.key.text)) =
      v.entries.map fun e => Sql.quote e.key.text := by
    conv_rhs => rw [← List.zipIdx_map_fst 1 v.entries, List.map_map]
    exact congrFun List.filterMap_eq_map _
  rw [Sql.Script.writtenIn, Sql.vocabularyScript, List.filterMap_append, List.filterMap_append, List.filterMap_map,
    ← hrows]
  simp only [Function.comp_def, hrow]
  exact List.append_nil _

/-- The keys of the commands for entries, in a script of which the other commands have none. -/
theorem Graph.keys_vocabularyScript {key? : Graph.Command → Option String}
    (hentry : ∀ e, (Graph.entryCommands v.name e).filterMap key? = [Graph.quote e.key.text])
    (hother : (Graph.vocabularyScript { v with entries := [] }).filterMap key? = []) :
    (Graph.vocabularyScript v).filterMap key? = v.entries.map fun e => Graph.quote e.key.text := by
  have hentries : (v.entries.flatMap (Graph.entryCommands v.name)).filterMap key? =
      v.entries.map fun e => Graph.quote e.key.text := by
    rw [List.filterMap_flatMap, List.map_eq_flatMap]
    simp only [hentry]
  rw [Graph.vocabularyScript, List.flatMap_nil, List.append_nil, List.filterMap_append,
    List.append_eq_nil_iff] at hother
  rw [Graph.vocabularyScript, List.filterMap_append, List.filterMap_append, hother.1, hentries, hother.2,
    List.nil_append, List.append_nil]

/-- The keys of the nodes of a vocabulary. -/
theorem Graph.createdKeys_vocabularyScript : (Graph.vocabularyScript v).filterMap Graph.Command.createdKey? =
    v.entries.map fun e => Graph.quote e.key.text :=
  Graph.keys_vocabularyScript v (fun _ => rfl) rfl

/-- The keys by which the nodes of a vocabulary are found. -/
theorem Graph.foundKeys_vocabularyScript : (Graph.vocabularyScript v).filterMap Graph.Command.foundKey? =
    v.entries.map fun e => Graph.quote e.key.text :=
  Graph.keys_vocabularyScript v (fun _ => rfl) rfl

/-- A vocabulary with a name of a table has that table. -/
theorem Anmi.find?_vocabularyTables {t : Anmi.VocabularyTable} (ht : t ∈ Anmi.vocabularyTables) :
    (Anmi.vocabularyTables.find? fun other => other.vocabulary == t.vocabulary) = some t := by
  rw [Anmi.vocabularyTables, List.mem_cons, List.mem_singleton] at ht
  obtain rfl | rfl := ht <;> rfl

/-- The numbers of the rows of a vocabulary that has a table. -/
theorem Anmi.writtenIn_vocabularyScript {t : Anmi.VocabularyTable} (ht : t ∈ Anmi.vocabularyTables)
    (hname : t.vocabulary = v.name) :
    Sql.Script.writtenIn (Anmi.qualified t.table) t.idColumn (Anmi.vocabularyScript v) =
      v.entries.filterMap fun e => e.key.numericText? := by
  have hrow : ∀ e : Model.VocabularyEntry, ((Anmi.entryRow? t e).bind
      (Sql.Statement.writtenIn? (Anmi.qualified t.table) t.idColumn)) = e.key.numericText? := by
    intro e
    obtain ⟨key, value⟩ := e
    cases key with
    | number x =>
      show (Sql.Statement.insertInto? (Anmi.qualified t.table) _).bind _ = some x.text
      rw [Sql.Statement.insertInto?, if_pos rfl]
      exact congrArg (Option.map Sql.Term.render) List.lookup_cons_self
    | quoted => rfl
  unfold Anmi.vocabularyScript
  rw [← hname, Anmi.find?_vocabularyTables ht]
  show List.filterMap _ (v.entries.filterMap (Anmi.entryRow? t) ++ [Sql.Statement.blank]) = _
  rw [List.filterMap_append, List.filterMap_filterMap]
  simp only [hrow]
  exact List.append_nil _

end Scripts

section Parts

variable {p : Program} {d : Vocabulary}

/-- The script of a vocabulary among those of all. -/
theorem infix_vocabularies {α : Type} (hd : d ∈ p.vocabularies) (script : Model.Vocabulary → List α) :
    script d.lower <:+: p.toModel.vocabularies.flatMap script := by
  have hlower : d.lower ∈ p.toModel.vocabularies := List.mem_map_of_mem hd
  exact List.infix_of_mem_flatten (List.mem_map_of_mem hlower)

theorem Sql.infix_script (hd : d ∈ p.vocabularies) : Sql.vocabularyScript d.lower <:+: Sql.script p.toModel := by
  unfold Sql.script
  iterate 5 refine List.infix_append_of_infix_left ?_
  exact List.infix_append_of_infix_right (infix_vocabularies hd _)

theorem Graph.infix_script (hd : d ∈ p.vocabularies) :
    Graph.vocabularyScript d.lower <:+: Graph.script p.toModel := by
  unfold Graph.script
  iterate 6 refine List.infix_append_of_infix_left ?_
  exact List.infix_append_of_infix_right (infix_vocabularies hd _)

theorem Anmi.infix_statements (hd : d ∈ p.vocabularies) :
    Anmi.vocabularyScript d.lower <:+: Anmi.statements p.toModel := by
  have houtlets : Anmi.vocabularyScript d.lower <:+: Anmi.outletScript p.toModel := by
    unfold Anmi.outletScript
    iterate 3 refine List.infix_append_of_infix_left ?_
    exact List.infix_append_of_infix_right (infix_vocabularies hd _)
  unfold Anmi.statements
  iterate 2 refine List.infix_append_of_infix_left ?_
  exact List.infix_append_of_infix_right houtlets

end Parts

/-! ## Programs that pass -/

/-- In a program that passes, what the scripts write for the keys of a body of a vocabulary is different for different
entries: the codes of the rows, the keys by which entries are created and found, and the numbers of the rows of
sectors and distribution areas. -/
theorem codes_distinct {p : Program} {v : Verdict} (h : p.validate = .ok v) (hpassed : v.passed = true)
    {d : Vocabulary} (hd : d ∈ p.vocabularies) :
    (Sql.vocabularyScript d.lower <:+: Sql.script p.toModel ∧
      DistinctByBody d.bodies (fun k => some (Sql.quote k.text))
        (Sql.Script.writtenIn (Text.lowercase d.name) "code" (Sql.vocabularyScript d.lower))) ∧
    (Graph.vocabularyScript d.lower <:+: Graph.script p.toModel ∧
      DistinctByBody d.bodies (fun k => some (Graph.quote k.text))
        ((Graph.vocabularyScript d.lower).filterMap Graph.Command.createdKey?) ∧
      DistinctByBody d.bodies (fun k => some (Graph.quote k.text))
        ((Graph.vocabularyScript d.lower).filterMap Graph.Command.foundKey?)) ∧
    ∀ t ∈ Anmi.vocabularyTables, t.vocabulary = d.name →
      Anmi.vocabularyScript d.lower <:+: Anmi.statements p.toModel ∧
      DistinctByBody d.bodies VocabularyKey.numericText?
        (Sql.Script.writtenIn (Anmi.qualified t.table) t.idColumn (Anmi.vocabularyScript d.lower)) := by
  have hpasses := passes_of_validate h hpassed
  refine ⟨⟨Sql.infix_script hd, ?_⟩, ⟨Graph.infix_script hd, ?_, ?_⟩, fun t ht hname => ⟨Anmi.infix_statements hd, ?_⟩⟩
  · rw [show d.name = d.lower.name from rfl, Sql.writtenIn_vocabularyScript]
    exact distinctByBody_literal hpasses hd Sql.quote_injective
  · rw [Graph.createdKeys_vocabularyScript]
    exact distinctByBody_literal hpasses hd Graph.quote_injective
  · rw [Graph.foundKeys_vocabularyScript]
    exact distinctByBody_literal hpasses hd Graph.quote_injective
  · rw [Anmi.writtenIn_vocabularyScript d.lower ht hname]
    exact distinctByBody hpasses hd fun k k' c hk hk' =>
      (VocabularyKey.numericText?_eq_some hk).trans (VocabularyKey.numericText?_eq_some hk').symm

/-- Sectors with numbers and texts as keys, one of them with a quote, in two bodies that share a key. -/
def codeSample : Program :=
  ⟨[.vocabulary ⟨"SECTOR", [
    ⟨"a", [⟨.number (.finite false 1 0), "x", ⟨2, 10, 30⟩⟩, ⟨.quoted "it's", "y", ⟨2, 20, 40⟩⟩,
      ⟨.number (.finite false 3 (-1)), "z", ⟨2, 30, 50⟩⟩], ⟨2, 3, 23⟩⟩,
    ⟨"b", [⟨.quoted "1", "x", ⟨3, 10, 70⟩⟩], ⟨3, 3, 63⟩⟩], ⟨1, 1, 0⟩⟩]⟩

/-- The sectors of the sample, whose codes are different body by body. -/
theorem codes_distinct_sample :
    codeSample.validate = .ok (Validator.run {} codeSample).verdict ∧
    (Validator.run {} codeSample).verdict.passed = true ∧
    ∃ d ∈ codeSample.vocabularies,
      Sql.Script.writtenIn (Text.lowercase d.name) "code" (Sql.vocabularyScript d.lower) =
        ["'1'", "'it''s'", "'1.5'", "'1'"] ∧
      ((Sql.vocabularyScript d.lower <:+: Sql.script codeSample.toModel ∧
        DistinctByBody d.bodies (fun k => some (Sql.quote k.text))
          (Sql.Script.writtenIn (Text.lowercase d.name) "code" (Sql.vocabularyScript d.lower))) ∧
      (Graph.vocabularyScript d.lower <:+: Graph.script codeSample.toModel ∧
        DistinctByBody d.bodies (fun k => some (Graph.quote k.text))
          ((Graph.vocabularyScript d.lower).filterMap Graph.Command.createdKey?) ∧
        DistinctByBody d.bodies (fun k => some (Graph.quote k.text))
          ((Graph.vocabularyScript d.lower).filterMap Graph.Command.foundKey?)) ∧
      ∀ t ∈ Anmi.vocabularyTables, t.vocabulary = d.name →
        Anmi.vocabularyScript d.lower <:+: Anmi.statements codeSample.toModel ∧
        DistinctByBody d.bodies VocabularyKey.numericText?
          (Sql.Script.writtenIn (Anmi.qualified t.table) t.idColumn (Anmi.vocabularyScript d.lower))) := by
  have hv : codeSample.validate = .ok (Validator.run {} codeSample).verdict :=
    validate_of_finite (by decide +kernel)
  have hpassed : (Validator.run {} codeSample).verdict.passed = true := by decide +kernel
  refine ⟨hv, hpassed, _, List.mem_cons_self, ?_, codes_distinct hv hpassed List.mem_cons_self⟩
  decide +kernel

end MediaLanguage

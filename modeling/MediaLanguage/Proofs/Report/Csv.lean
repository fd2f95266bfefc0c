import MediaLanguage.Proofs.Text.Lines
import MediaLanguage.Proofs.Text.Literal
import MediaLanguage.Proofs.Validation.Raised
import MediaLanguage.Report.Csv

/-!
# Reading comma-separated values back

Commas separate the fields of a record, and a line feed ends it. A field without quotes has none of the characters that
separate, end or open anything; a field in quotes has any characters, each quote twice. The reader goes from field to
field (`Csv.readField?`), record to record (`Csv.readRecord?`) and fails on any other text.

* `Csv.written_of_isBare`, `Csv.written_quote`: how a value is written so that a reader finds it in front of a comma or
  line feed (`Csv.Written`).
* `Csv.readRecord?_record`, `Csv.readRecords?_join`: records of written fields, by induction on fields and on records.
* `csvReport_read_back`: a report whose codes can do without quotes is read back as the names of the columns and the
  values of each issue; and the codes of the rules can do without quotes.
-/

namespace MediaLanguage

open Text

namespace Csv

/-! ## The reader -/

/-- Characters of a field without quotes. -/
def isBare (c : Char) : Bool :=
  c != ',' && c != '"' && c != '\r' && c != '\n'

/-- The field at the front, and what stands behind it. -/
def readField? (cs : List Char) : Option (List Char × List Char) :=
  if cs.head? = some '"' then readDoubled '"' cs.tail else some (cs.takeWhile isBare, cs.dropWhile isBare)

/-- A field is not taken from anywhere else. -/
theorem readField?_length {cs : List Char} {p : List Char × List Char} (h : readField? cs = some p) :
    p.2.length ≤ cs.length := by
  unfold readField? at h
  split at h
  · have hlt := readDoubled_length h
    have htail := cs.length_tail
    omega
  · cases h
    exact (List.dropWhile_sublist isBare).length_le

/-- The record at the front, and what stands behind it. -/
def readRecord? (cs : List Char) : Option (List String × List Char) :=
  match h : readField? cs with
  | some (field, ',' :: rest) =>
    have : rest.length + 1 ≤ cs.length := readField?_length h
    (readRecord? rest).map fun p => (String.ofList field :: p.1, p.2)
  | some (field, '\n' :: rest) => some ([String.ofList field], rest)
  | _ => none
termination_by cs.length

section Record

variable {cs field rest : List Char}

/-- A record goes on behind a comma. -/
theorem readRecord?_of_comma (h : readField? cs = some (field, ',' :: rest)) :
    readRecord? cs = (readRecord? rest).map fun p => (String.ofList field :: p.1, p.2) := by
  rw [readRecord?]
  split <;> simp_all

/-- A record ends with a line feed. -/
theorem readRecord?_of_lineFeed (h : readField? cs = some (field, '\n' :: rest)) :
    readRecord? cs = some ([String.ofList field], rest) := by
  rw [readRecord?]
  split <;> simp_all

/-- A record takes a line feed at least. -/
theorem readRecord?_length {p : List String × List Char} (h : readRecord? cs = some p) : p.2.length < cs.length := by
  fun_induction readRecord? cs generalizing p with
  | case1 cs field rest hfield hle ih =>
    obtain ⟨q, hq, rfl⟩ := Option.map_eq_some_iff.1 h
    have hlt := ih hq
    exact Nat.lt_trans hlt hle
  | case2 cs field rest hfield =>
    cases h
    exact readField?_length hfield
  | case3 => cases h

end Record

/-- The records of a text, each of which is ended. -/
def readRecords? (cs : List Char) : Option (List (List String)) :=
  if cs.isEmpty then some []
  else
    match h : readRecord? cs with
    | some p =>
      have : p.2.length < cs.length := readRecord?_length h
      (readRecords? p.2).map (p.1 :: ·)
    | none => none
termination_by cs.length

/-- The records of a text. -/
def read? (s : String) : Option (List (List String)) :=
  readRecords? s.toList

/-- A record in front of others. -/
theorem readRecords?_of_record {cs rest : List Char} {record : List String}
    (h : readRecord? cs = some (record, rest)) : readRecords? cs = (readRecords? rest).map (record :: ·) := by
  have hne : cs.isEmpty = false := by
    have hlt := readRecord?_length h
    cases cs with
    | nil => cases hlt
    | cons => rfl
  rw [readRecords?, hne]
  split
  · next hfalse => cases hfalse
  · split <;> simp_all

/-! ## Written fields -/

/-- A field that is written so is read as the value, in front of a comma or line feed. -/
def Written (text value : String) : Prop :=
  ∀ c rest, c = ',' ∨ c = '\n' → readField? (text.toList ++ c :: rest) = some (value.toList, c :: rest)

/-- A value without special characters stands for itself. -/
theorem written_of_isBare {s : String} (h : ∀ c ∈ s.toList, isBare c) : Written s s := by
  intro c rest hc
  have hbare : isBare c = false := by
    obtain rfl | rfl := hc <;> rfl
  have hquote : (s.toList ++ c :: rest).head? ≠ some '"' := by
    cases hs : s.toList with
    | nil =>
      obtain rfl | rfl := hc <;> simp
    | cons d ds =>
      have hd : isBare d := h d (by rw [hs]; exact List.mem_cons_self)
      intro heq
      rw [List.cons_append, List.head?_cons, Option.some.injEq] at heq
      subst heq
      cases hd
  rw [readField?, if_neg hquote, List.takeWhile_append_of_pos h, List.dropWhile_append_of_pos h,
    List.takeWhile_cons_of_neg (by simp [hbare]), List.dropWhile_cons_of_neg (by simp [hbare]), List.append_nil]

/-- A value in quotes may have any characters. -/
theorem written_quote (s : String) : Written (quote s) s := by
  intro c rest hc
  have hquote : (c :: rest).head? ≠ some '"' := by
    obtain rfl | rfl := hc <;> simp
  have htext : (quote s).toList ++ c :: rest = '"' :: (replaceEach '"' ['"', '"'] s.toList ++ '"' :: c :: rest) := by
    simp [quote, escape, replaceEach]
  rw [htext, readField?, List.head?_cons, if_pos rfl, List.tail_cons]
  exact readDoubled_closed_iff.2 hquote

/-- A word stands for itself. -/
theorem written_of_isWord {s : String} (h : IsWord s) : Written s s :=
  written_of_isBare fun _ hc => forall_isNameChar (P := fun c => isBare c) (by decide) (h _ hc)

/-- Fields with commas between them and a line feed behind the last are read as the values. -/
theorem readRecord?_record {texts values : List String} (h : List.Forall₂ Written texts values) (hne : texts ≠ [])
    (rest : List Char) : readRecord? ((record texts).toList ++ '\n' :: rest) = some (values, rest) := by
  induction h with
  | nil => exact absurd rfl hne
  | @cons text value texts values hfield hfields ih =>
    cases hfields with
    | nil =>
      rw [record, String.intercalate_singleton, readRecord?_of_lineFeed (hfield '\n' rest (.inr rfl)),
        String.ofList_toList]
    | @cons text' value' texts values hfield' hfields =>
      have hsplit : (record (text :: text' :: texts)).toList ++ '\n' :: rest =
          text.toList ++ ',' :: ((record (text' :: texts)).toList ++ '\n' :: rest) := by
        simp [record, String.intercalate_cons_cons]
      rw [hsplit, readRecord?_of_comma (hfield ',' _ (.inl rfl)), ih (List.cons_ne_nil _ _), String.ofList_toList]
      rfl

/-- Records with a line feed behind each are read as their values. -/
theorem readRecords?_join {rows values : List (List String)} (h : List.Forall₂ (List.Forall₂ Written) rows values)
    (hne : ∀ row ∈ rows, row ≠ []) :
    readRecords? (String.join (rows.map fun row => record row ++ "\n")).toList = some values := by
  induction h with
  | nil => rw [readRecords?]; rfl
  | @cons row value rows values hrow hrows ih =>
    obtain ⟨hfirst, hothers⟩ := List.forall_mem_cons.1 hne
    have hsplit : (String.join ((row :: rows).map fun row => record row ++ "\n")).toList =
        (record row).toList ++ '\n' :: (String.join (rows.map fun row => record row ++ "\n")).toList := by
      simp [String.join_cons]
    rw [hsplit, readRecords?_of_record (readRecord?_record hrow hfirst _), ih hothers]
    rfl

theorem isWord_of_mem_columns : ∀ s ∈ columns, IsWord s := by
  decide

end Csv

/-! ## Reports -/

/-- The values that a report gives of an issue: severity, code, line, column, message, suggestion, which is empty if it
is missing, and context. -/
def Issue.values (i : Issue) : List String :=
  [i.severity.label, i.code, toString i.position.line, toString i.position.column, i.message, i.suggestion.getD "",
    i.context]

/-- The fields of the record of an issue, as they are written. -/
def Issue.csvFields (i : Issue) : List String :=
  [i.severity.label, i.code, toString i.position.line, toString i.position.column, Csv.quote i.message,
    Csv.quote (i.suggestion.getD ""), Csv.quote i.context]

/-- The fields of an issue are written as its values. -/
theorem Issue.written_csvFields {i : Issue} (h : ∀ c ∈ i.code.toList, Csv.isBare c) :
    List.Forall₂ Csv.Written i.csvFields i.values := by
  have hlabel : IsWord i.severity.label := by
    cases i.severity <;> decide
  exact .cons (Csv.written_of_isWord hlabel) (.cons (Csv.written_of_isBare h)
    (.cons (Csv.written_of_isWord (isWord_natural _)) (.cons (Csv.written_of_isWord (isWord_natural _))
      (.cons (Csv.written_quote _) (.cons (Csv.written_quote _) (.cons (Csv.written_quote _) .nil))))))

/-- **A report is read back.** If no code of an issue has a comma, quote or line end in it, the records of a report are
the names of the columns and the values of each issue, in order, whatever characters messages, suggestions and contexts
have. The codes of a validation are such codes. -/
theorem csvReport_read_back :
    (∀ v : Verdict, (∀ i ∈ v.issues, ∀ c ∈ i.code.toList, c ≠ ',' ∧ c ≠ '"' ∧ c ≠ '\r' ∧ c ≠ '\n') →
      Csv.read? v.csvReport = some (Csv.columns :: v.issues.map Issue.values)) ∧
    ∀ (p : Ast.Program) (v : Verdict), p.validate = .ok v →
      ∀ i ∈ v.issues, ∀ c ∈ i.code.toList, c ≠ ',' ∧ c ≠ '"' ∧ c ≠ '\r' ∧ c ≠ '\n' := by
  constructor
  · intro v hcodes
    have hcolumns : List.Forall₂ Csv.Written Csv.columns Csv.columns :=
      List.forall₂_same.2 fun s hs => Csv.written_of_isWord (Csv.isWord_of_mem_columns s hs)
    have hissues : List.Forall₂ (List.Forall₂ Csv.Written) (v.issues.map Issue.csvFields)
        (v.issues.map Issue.values) := by
      rw [List.forall₂_map_left_iff, List.forall₂_map_right_iff]
      refine List.forall₂_same.2 fun i hi => Issue.written_csvFields fun c hc => ?_
      simpa [Csv.isBare, and_assoc] using hcodes i hi c hc
    have hne : ∀ row ∈ Csv.columns :: v.issues.map Issue.csvFields, row ≠ [] := by
      simp [Csv.columns, Issue.csvFields]
    have htext : v.csvReport =
        String.join ((Csv.columns :: v.issues.map Issue.csvFields).map fun row => Csv.record row ++ "\n") := by
      rw [Verdict.csvReport, unlines_append (List.cons_ne_nil _ _), List.map_cons, List.map_cons, List.map_map,
        List.map_map]
      rfl
    rw [Csv.read?, htext]
    exact Csv.readRecords?_join (.cons hcolumns hissues) hne
  · intro p v hv i hi c hc
    rw [eq_verdict_of_validate hv] at hi
    have hword := isWord_of_mem_ruleCodes _ (Validator.code_mem_of_run hi) c hc
    exact forall_isNameChar (P := fun c => c ≠ ',' ∧ c ≠ '"' ∧ c ≠ '\r' ∧ c ≠ '\n') (by decide) hword

/-- An import of a file whose name has a comma, a quote and a line end in it. -/
def awkwardImport : Ast.Program :=
  ⟨[.importFile ⟨"a,\"b\r\n", ⟨1, 1, 0⟩⟩]⟩

/-- The report on the import has the name in a message and in a context. -/
theorem csvReport_read_back_import :
    awkwardImport.validate = .ok (Validator.run {} awkwardImport).verdict ∧
      Csv.read? (Validator.run {} awkwardImport).verdict.csvReport =
        some [Csv.columns, ["Warning", "IMPORT_NO_EXTENSION", "1", "1",
          "Import path 'a,\"b\r\n' should end with '.mdsl'", "Add '.mdsl' extension to import path",
          "Program > Import(a,\"b\r\n)"]] := by
  have hvalid : awkwardImport.validate = .ok (Validator.run {} awkwardImport).verdict := rfl
  refine ⟨hvalid, (csvReport_read_back.1 _ (csvReport_read_back.2 _ _ hvalid)).trans ?_⟩
  decide

end MediaLanguage

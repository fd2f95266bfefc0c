import MediaLanguage.Command.Arguments
import MediaLanguage.Proofs.Command.Session
import MediaLanguage.Proofs.Naming

/-!
# Commands and compilation

A command that generates goes its own way from the text of a file to its output: it makes the model first and validates
then, and reports where `compile` fails. `Shell.Leaves` says how a step of a command ends, which workspace it leaves
and what it has said at the output; there is one rule for each kind of step.

What is written of a text that is echoed is not for the command to say. All that is asked of an echo is that it leaves
something out of the texts in which a sequence starts that steers a terminal, and nothing out of the others
(`LawfulEcho`).

* `lawful_printed`: the echo of an output that is no terminal is one.
* `leaves_emit_ok` and `leaves_emit_error`: the command for a text that compiles, and for one that does not.
* `emission_of_arguments`: a text that compiles is written to the file that is asked for, or echoed; one that does not
  ends the command with one, and leaves the files as they are.
* `not_printed_exactly`: a text is not always printed as it is.
-/

namespace MediaLanguage

/-! ## Printed texts -/

namespace Text

/-- No sequence that steers a terminal starts in the text. -/
def FreeOfSequences (cs : List Char) : Prop :=
  ∀ rest, rest <:+ cs → afterSequence? rest = none

instance {cs : List Char} : Decidable (FreeOfSequences cs) :=
  decidable_of_iff (∀ rest ∈ cs.tails, afterSequence? rest = none) (by simp only [List.mem_tails, FreeOfSequences])

/-- What follows a sequence does not change where it ends. -/
theorem afterSequence?_append {cs rest : List Char} (h : afterSequence? cs = some rest) (ds : List Char) :
    afterSequence? (cs ++ ds) = some (rest ++ ds) := by
  unfold afterSequence? at h
  split at h
  · next c cs =>
    split at h
    · next d later hescape hlater =>
      split at h
      · next hletter =>
        have hdrop : (cs ++ ds).dropWhile isParameter = d :: (later ++ ds) := by
          rw [List.dropWhile_append, hlater]
          rfl
        cases h
        simp [afterSequence?, hescape, hdrop, hletter]
      · cases h
    · cases h
  · cases h

/-- No sequence starts in a piece of a text in which none starts. -/
theorem FreeOfSequences.of_part {cs ds : List Char} (h : FreeOfSequences cs) (hpart : ds <:+: cs) :
    FreeOfSequences ds := by
  obtain ⟨front, back, rfl⟩ := hpart
  rintro rest ⟨before, rfl⟩
  cases hrest : afterSequence? rest with
  | none => rfl
  | some later =>
    have hnone := h (rest ++ back) ⟨front ++ before, by simp⟩
    rw [afterSequence?_append hrest] at hnone
    cases hnone

/-- Leaving out sequences makes no text longer. -/
theorem length_withoutSequences_le (cs : List Char) : (withoutSequences cs).length ≤ cs.length := by
  fun_induction withoutSequences cs with
  | case1 cs rest h hlt ih => exact Nat.le_trans ih (Nat.le_of_lt hlt)
  | case2 => exact Nat.le_refl _
  | case3 c rest h ih => exact Nat.succ_le_succ ih

/-- A text with a sequence becomes shorter. -/
theorem length_withoutSequences_lt {cs : List Char} (h : ¬FreeOfSequences cs) :
    (withoutSequences cs).length < cs.length := by
  fun_induction withoutSequences cs with
  | case1 cs rest _ hlt _ => exact Nat.lt_of_le_of_lt (length_withoutSequences_le rest) hlt
  | case2 hnone =>
    refine absurd (fun rest hrest => ?_) h
    rw [List.suffix_nil.1 hrest]
    exact hnone
  | case3 c rest hnone ih =>
    refine Nat.succ_lt_succ (ih fun hfree => h fun suffix hsuffix => ?_)
    rcases List.suffix_cons_iff.1 hsuffix with rfl | hsuffix
    · exact hnone
    · exact hfree suffix hsuffix

/-- A text without sequences stays as it is. -/
theorem withoutSequences_eq_self {cs : List Char} (h : FreeOfSequences cs) : withoutSequences cs = cs := by
  fun_induction withoutSequences cs with
  | case1 cs rest hsome _ _ =>
    rw [h cs (List.suffix_refl cs)] at hsome
    cases hsome
  | case2 => rfl
  | case3 c rest _ ih => rw [ih fun suffix hsuffix => h suffix (hsuffix.trans (List.suffix_cons c rest))]

end Text

/-- What an echo does to texts: it leaves something out of those in which a sequence starts that steers a terminal, and
leaves the others as they are. -/
structure LawfulEcho (echo : String → String) : Prop where
  free : ∀ text, Text.FreeOfSequences text.toList → echo text = text
  shorter : ∀ text, ¬Text.FreeOfSequences text.toList → (echo text).length < text.length

/-- Only a text without sequences is echoed as it is. -/
theorem LawfulEcho.eq_self_iff {echo : String → String} (h : LawfulEcho echo) {text : String} :
    echo text = text ↔ Text.FreeOfSequences text.toList := by
  refine ⟨fun heq => by_contra fun hsequence => ?_, h.free text⟩
  have hlt := h.shorter text hsequence
  rw [heq] at hlt
  exact Nat.lt_irrefl _ hlt

/-- An output that is no terminal is written to so. -/
theorem lawful_printed : LawfulEcho Text.printed where
  free text h := by rw [Text.printed, Text.withoutSequences_eq_self h, String.ofList_toList]
  shorter text h := by
    rw [Text.printed, String.length_ofList, ← String.length_toList]
    exact Text.length_withoutSequences_lt h

/-! ## How steps end -/

namespace Shell

/-- From the session `s` the step ends with `r`, leaves the workspace `w` and has said the utterances at the output. -/
def Leaves {α : Type} (r : Except ExitCode α) (w : Workspace) (said : List Utterance) (x : Shell α) (s : Session) :
    Prop :=
  ∃ s', x s = (r, s') ∧ s'.workspace = w ∧ s'.output = s.output ++ said

section Rules

variable {α β : Type} {x : Shell α} {f : α → Shell β} {s : Session} {w : Workspace} {said : List Utterance}

/-- A step that changes neither files nor output. -/
theorem leaves_of_eq {r : Except ExitCode α} (h : x s = (r, s)) : Leaves r s.workspace [] x s :=
  ⟨s, h, rfl, (List.append_nil _).symm⟩

/-- A step and the next. -/
theorem Leaves.bind {w' : Workspace} {later : List Utterance} {a : α} {r : Except ExitCode β}
    (h : Leaves (.ok a) w said x s)
    (hf : ∀ s', s'.workspace = w → Leaves r w' later (f a) s') : Leaves r w' (said ++ later) (x >>= f) s := by
  obtain ⟨s', hx, hw, hsaid⟩ := h
  obtain ⟨s'', hfa, hw', hlater⟩ := hf s' hw
  exact ⟨s'', (bind_of_ok hx).trans hfa, hw', by rw [hlater, hsaid, List.append_assoc]⟩

/-- A step that says nothing, and the next. -/
theorem Leaves.then {w' : Workspace} {a : α} {r : Except ExitCode β} (h : Leaves (.ok a) w [] x s)
    (hf : ∀ s', s'.workspace = w → Leaves r w' said (f a) s') : Leaves r w' said (x >>= f) s :=
  h.bind hf

/-- A step that ends the command. -/
theorem Leaves.ends {code : ExitCode} (h : Leaves (.error code) w said x s) :
    Leaves (.error code) w said (x >>= f) s := by
  obtain ⟨s', hx, hs'⟩ := h
  exact ⟨s', bind_of_error hx, hs'⟩

theorem leaves_fail (message : String) : Leaves (.error 1) s.workspace [] (fail message : Shell α) s :=
  ⟨_, rfl, rfl, (List.append_nil _).symm⟩

theorem leaves_print (text : String) : Leaves (.ok ()) s.workspace [.echoed text] (print text) s :=
  ⟨_, rfl, rfl, rfl⟩

theorem leaves_success (text : String) :
    Leaves (.ok ()) s.workspace [.drawn (Text.shown ("✓ " ++ text) ++ "\n")] (success text) s :=
  ⟨_, rfl, rfl, rfl⟩

/-- Warnings are not printed. -/
theorem leaves_warnings (warnings : List String) : Leaves (.ok ()) s.workspace [] (warnings.forM warning) s := by
  induction warnings generalizing s with
  | nil => exact leaves_of_eq rfl
  | cons message warnings ih =>
    have hwarning : Leaves (.ok ()) s.workspace [] (warning message) s := ⟨_, rfl, rfl, (List.append_nil _).symm⟩
    exact hwarning.then fun s' hs' => hs' ▸ ih

/-- A file that can be written is written. -/
theorem leaves_writeFile {place : Path} (h : s.workspace.canWrite place = true) :
    Leaves (.ok ()) (s.workspace.put place text) [] (writeFile place text) s := by
  have hget : (get : Shell Session) s = (.ok s, s) := rfl
  refine ⟨{ s with workspace := s.workspace.put place text }, ?_, rfl, (List.append_nil _).symm⟩
  rw [writeFile, bind_of_ok hget, h]
  rfl

end Rules

/-! ## Preparing -/

section Prepare

variable {s : Session} {file : Path} {text : String} {p : Ast.Program}

theorem leaves_read (h : s.workspace.text? file = some text) : Leaves (.ok text) s.workspace [] (read file) s := by
  have hread : read? file s = (.ok (some text), s) := by
    rw [← h]
    rfl
  apply leaves_of_eq
  rw [read, bind_of_ok hread]
  rfl

/-- An error of the text is told, but not printed. -/
theorem leaves_load_error {e : Error} (h : s.workspace.text? file = some text)
    (hp : MediaLanguage.parse text = .error e) : Leaves (.error 1) s.workspace [] (load file) s := by
  refine (leaves_read h).then fun s' hs' => ?_
  rw [hp, ← hs']
  cases e with
  | conversion => exact leaves_of_eq rfl
  | _ => exact leaves_fail _

theorem leaves_load_ok (h : s.workspace.text? file = some text) (hp : MediaLanguage.parse text = .ok p) :
    Leaves (.ok p) s.workspace [] (load file) s := by
  refine (leaves_read h).then fun s' hs' => ?_
  rw [hp, ← hs']
  exact leaves_of_eq rfl

theorem leaves_prepare_ok {v : Verdict} (h : s.workspace.text? file = some text)
    (hp : MediaLanguage.parse text = .ok p) (hm : p.lower = .ok p.toModel) (hv : p.validate = .ok v) :
    Leaves (.ok (p.toModel, v)) s.workspace [] (prepare file) s := by
  refine (leaves_load_ok h hp).then fun s' hs' => ?_
  rw [hm, hv, ← hs']
  exact leaves_of_eq rfl

/-- A model or verdict that cannot be made ends the command. -/
theorem leaves_prepare_error (h : s.workspace.text? file = some text) (hp : MediaLanguage.parse text = .ok p)
    {e : ConversionError} (he : p.lower = .error e ∨ p.validate = .error e) :
    Leaves (.error 1) s.workspace [] (prepare file) s := by
  refine (leaves_load_ok h hp).then fun s' hs' => ?_
  rw [← hs']
  cases hm : p.lower with
  | error => exact (leaves_of_eq rfl).ends
  | ok m =>
    obtain he | he := he
    · rw [hm] at he
      cases he
    · refine (leaves_of_eq rfl).then fun s'' hs'' => ?_
      rw [he, ← hs'']
      exact (leaves_of_eq rfl).ends

end Prepare

/-! ## Generating -/

section Emit

variable {s : Session} {t : Target} {file : Path} {output : Option Path} {text : String}

/-- What a command leaves in a workspace that writes its text to a file, if one is asked for. -/
def written (w : Workspace) (content : String) : Option Path → Workspace
  | none => w
  | some place => w.put place content

/-- What a command says: its text, or that it has written it to a file. -/
def told (content : String) : Option Path → Utterance
  | none => .echoed content
  | some place => .drawn (Text.shown ("✓ " ++ ("Wrote " ++ place.toString)) ++ "\n")

/-- The command for a text that compiles writes what the text compiles to. -/
theorem leaves_emit_ok {content : String} (h : s.workspace.text? file = some text)
    (hcompile : compile text t.name = .ok content) (hwrite : ∀ place ∈ output, s.workspace.canWrite place = true) :
    Leaves (.ok ()) (written s.workspace content output) [told content output] (emit t file output) s := by
  obtain ⟨p, v, hp, hv, hpassed, hm, htext⟩ := compile_eq_ok_iff.1 hcompile
  have hgenerated : ∀ s', Leaves (.ok (Generation.ofText p.toModel (.ok content))) s'.workspace []
      (orStop (t.generate p.toModel).toOption) s' := by
    intro s'
    apply leaves_of_eq
    rw [Target.generate_eq, htext]
    rfl
  cases output with
  | none =>
    refine (leaves_prepare_ok h hp hm hv).then fun s₁ h₁ => ?_
    simp only [hpassed, Bool.not_true, Bool.false_eq_true, ↓reduceIte]
    refine (hgenerated s₁).then fun s₂ h₂ => (leaves_warnings _).then fun s₃ h₃ => ?_
    rw [written, ← h₁, ← h₂, ← h₃]
    exact leaves_print content
  | some place =>
    refine (leaves_prepare_ok h hp hm hv).then fun s₁ h₁ => ?_
    simp only [hpassed, Bool.not_true, Bool.false_eq_true, ↓reduceIte]
    refine (hgenerated s₁).then fun s₂ h₂ => ?_
    refine (leaves_writeFile ?_).then fun s₃ h₃ => (leaves_warnings _).then fun s₄ h₄ => ?_
    · rw [h₂, h₁]
      exact hwrite place rfl
    have hput : s₂.workspace.put place content = s₄.workspace := (h₄.trans h₃).symm
    rw [written, ← h₁, ← h₂, hput]
    exact leaves_success _

/-- The command for a text that does not compile ends with one; it prints the report of a verdict that does not pass,
and nothing else. -/
theorem leaves_emit_error (output : Option Path) {e : Error} (h : s.workspace.text? file = some text)
    (hcompile : compile text t.name = .error e) :
    ∃ said, Leaves (.error 1) s.workspace said (emit t file output) s ∧
      (said = [] ∨ ∃ p v, MediaLanguage.parse text = .ok p ∧ p.validate = .ok v ∧ v.passed = false ∧
        said = [.echoed (v.plainReport (some file.name))]) := by
  cases hp : MediaLanguage.parse text with
  | error e' => exact ⟨[], (leaves_load_error h hp).ends.ends, .inl rfl⟩
  | ok p =>
  cases hm : p.lower with
  | error e' => exact ⟨[], (leaves_prepare_error h hp (.inl hm)).ends, .inl rfl⟩
  | ok m =>
  cases hv : p.validate with
  | error e' => exact ⟨[], (leaves_prepare_error h hp (.inr hv)).ends, .inl rfl⟩
  | ok v =>
  have hmodel : p.lower = .ok p.toModel := by rw [hm, p.eq_toModel hm]
  cases hpassed : v.passed with
  | false =>
    refine ⟨_, (leaves_prepare_ok h hp hmodel hv).then fun s' hs' => ?_, .inr ⟨p, v, rfl, hv, hpassed, rfl⟩⟩
    simp only [hpassed, Bool.not_false, ↓reduceIte]
    rw [← hs']
    exact (leaves_print _).bind fun s'' hs'' => hs'' ▸ (leaves_fail _).ends
  | true =>
    refine ⟨[], (leaves_prepare_ok h hp hmodel hv).then fun s' hs' => ?_, .inl rfl⟩
    have hfailed : ∃ e', t.text p.toModel = .error e' := by
      cases htext : t.text p.toModel with
      | error e' => exact ⟨e', rfl⟩
      | ok content =>
        rw [compile_eq_ok_iff.2 ⟨p, v, hp, hv, hpassed, hmodel, htext⟩] at hcompile
        cases hcompile
    obtain ⟨e', htext⟩ := hfailed
    simp only [hpassed, Bool.not_true, Bool.false_eq_true, ↓reduceIte, Target.generate_eq, htext]
    rw [← hs']
    exact (leaves_of_eq rfl).ends

end Emit

/-- The number with which a command ends. -/
def codeOf : Except ExitCode Unit → ExitCode
  | .ok _ => 0
  | .error code => code

section Run

variable {w : Workspace} {echo : String → String}

theorem transcript_singleton (u : Utterance) : transcript echo [u] = u.text echo :=
  String.empty_append

/-- A command whose steps end so. -/
theorem Leaves.run {r : Except ExitCode Unit} {w' : Workspace} {said : List Utterance} {steps : Shell Unit}
    (h : Leaves r w' said steps { workspace := w }) :
    (steps.run w echo).exitCode = codeOf r ∧ (steps.run w echo).output = transcript echo said ∧
      (steps.run w echo).workspace = w' := by
  obtain ⟨s', hrun, hw, hsaid⟩ := h
  rw [Shell.run, hrun]
  cases r <;> exact ⟨rfl, congrArg (transcript echo) hsaid, hw⟩

/-- The command for a text that compiles. -/
theorem run_emit_ok {t : Target} {file : Path} {output : Option Path} {text content : String}
    (hfile : w.text? file = some text) (hcompile : compile text t.name = .ok content)
    (hwrite : ∀ place ∈ output, w.canWrite place = true) :
    ((emit t file output).run w echo).exitCode = 0 ∧
      ((emit t file output).run w echo).output = (told content output).text echo ∧
      ((emit t file output).run w echo).workspace = written w content output := by
  rw [← transcript_singleton]
  exact (leaves_emit_ok (s := { workspace := w }) hfile hcompile hwrite).run

end Run

end Shell

/-! ## Scripts -/

/-- A command of a script is a piece of its text. -/
theorem Graph.render_part {command : Graph.Command} {s : Graph.Script} (h : command ∈ s) :
    command.render.toList <:+: (Graph.Script.render s).toList := by
  obtain ⟨front, back, rfl⟩ := List.append_of_mem h
  refine ⟨(Graph.Script.render front).toList, (Graph.Script.render back).toList, ?_⟩
  simp only [Graph.Script.render, List.map_append, List.map_cons, String.join_append, String.join_cons,
    String.toList_append, List.append_assoc]

/-- The paths of imports are written as they are. -/
theorem Graph.import_part {p : Model.Program} {path : String} (h : path ∈ p.imports) :
    path.toList <:+: (Graph.Script.render (Graph.script p)).toList := by
  have himport : Graph.Command.comment s!"IMPORT \"{path}\"" ∈ Graph.importScript p.imports := by
    rw [Graph.importScript, if_neg (by simpa using List.ne_nil_of_mem h)]
    exact List.mem_append_left _ (List.mem_cons_of_mem _ (List.mem_map_of_mem h))
  have hcommand : Graph.Command.comment s!"IMPORT \"{path}\"" ∈ Graph.script p := by
    simp only [Graph.script, List.mem_append, himport, true_or, or_true]
  have hrender : (Graph.Command.comment s!"IMPORT \"{path}\"").render =
      "// " ++ ("IMPORT \"" ++ path ++ "\"") ++ "\n" := rfl
  refine List.IsInfix.trans ⟨"// ".toList ++ "IMPORT \"".toList, "\"".toList ++ "\n".toList, ?_⟩
    (Graph.render_part hcommand)
  rw [hrender]
  simp only [String.toList_append, List.append_assoc]

/-! ## Command lines -/

/-- What a command that generates leaves behind agrees with what the text of its file compiles to. -/
structure Emission (echo : String → String) (w : Workspace) (t : Target) (file : Path) (output : Option Path)
    (text : String) (o : Outcome) : Prop where
  /-- A text that compiles is written to the file that is asked for. -/
  written : ∀ content place, compile text t.name = .ok content → output = some place →
    o.exitCode = 0 ∧ o.workspace = w.put place content
  /-- Otherwise it is echoed, exactly as it is if no sequence that steers a terminal starts in it. -/
  printed : ∀ content, compile text t.name = .ok content → output = none →
    o.exitCode = 0 ∧ o.workspace = w ∧ o.output = echo content ∧
      (o.output = content ↔ Text.FreeOfSequences content.toList)
  /-- A text that does not compile ends the command and leaves the files as they are. Only the report of a verdict that
  does not pass is echoed. -/
  failed : ∀ e, compile text t.name = .error e →
    o.exitCode = 1 ∧ o.workspace = w ∧ (o.output = "" ∨
      ∃ p v, parse text = .ok p ∧ p.validate = .ok v ∧ v.passed = false ∧
        o.output = echo (v.plainReport (some file.name)) ∧
        (o.output = v.plainReport (some file.name) ↔ Text.FreeOfSequences (v.plainReport (some file.name)).toList))

section Arguments

variable {echo : String → String} {arguments : List String} {w : Workspace} {t : Target} {file : Path}
variable {output : Option Path} {text : String}

theorem runArguments_emit (h : Command.ofArguments? arguments = some (.emit t file output)) :
    runArguments arguments w echo = (Shell.emit t file output).run w echo := by
  rw [runArguments, h]
  rfl

/-- A command line that generates does what `compile` does, but for sequences in what it echoes. -/
theorem emission_of_arguments (hecho : LawfulEcho echo)
    (harguments : Command.ofArguments? arguments = some (.emit t file output)) (hfile : w.text? file = some text)
    (hwrite : ∀ place ∈ output, w.canWrite place = true) :
    Emission echo w t file output text (runArguments arguments w echo) := by
  rw [runArguments_emit harguments]
  refine ⟨?_, ?_, ?_⟩
  · rintro content place hcontent rfl
    obtain ⟨hexit, -, hworkspace⟩ := Shell.run_emit_ok hfile hcontent hwrite
    exact ⟨hexit, hworkspace⟩
  · rintro content hcontent rfl
    obtain ⟨hexit, houtput, hworkspace⟩ := Shell.run_emit_ok hfile hcontent hwrite
    exact ⟨hexit, hworkspace, houtput, houtput ▸ hecho.eq_self_iff⟩
  · intro e he
    obtain ⟨said, hleaves, hsaid⟩ := Shell.leaves_emit_error (s := { workspace := w }) output hfile he
    obtain ⟨hexit, houtput, hworkspace⟩ := hleaves.run
    refine ⟨hexit, hworkspace, ?_⟩
    rw [houtput]
    rcases hsaid with rfl | ⟨p, v, hp, hv, hpassed, rfl⟩
    · exact .inl rfl
    · rw [Shell.transcript_singleton]
      exact .inr ⟨p, v, hp, hv, hpassed, rfl, hecho.eq_self_iff⟩

/-- A file with an import of which the path is a sequence that resets the colours of a terminal. -/
def colouredImport : Workspace where
  directory := ⟨1, ["p"]⟩
  files := [(⟨1, ["p", "m.mdsl"]⟩, "import \"\x1b[0m\";")]

/-- The program of the file passes, and is written to a file that can be written. -/
theorem model_colouredImport :
    ((parse "import \"\x1b[0m\";").toOption.map fun p => ((Validator.integers p ++ p.integers).all Number.isFinite,
      (Validator.run {} p).verdict.passed, p.toModel.imports)) = some (true, true, ["\x1b[0m"]) ∧
    ¬Text.FreeOfSequences "\x1b[0m".toList ∧
    colouredImport.text? (.ofString "m.mdsl") = some "import \"\x1b[0m\";" ∧
    colouredImport.canWrite (.ofString "m.cypher") = true := by
  decide +kernel

/-- The text for the file is written as it is. -/
theorem emission_of_arguments_file : ∃ content, compile "import \"\x1b[0m\";" "cypher" = .ok content ∧
    (runArguments ["cypher", "m.mdsl", "-o", "m.cypher"] colouredImport).workspace =
      colouredImport.put (.ofString "m.cypher") content := by
  obtain ⟨hmodel, -, htext, hwrite⟩ := model_colouredImport
  obtain ⟨p, v, hp, hv, hpassed, hm, -⟩ := exists_model_of_source hmodel
  have hcompile : compile _ Target.graph.name = _ :=
    compile_eq_ok_iff.2 ⟨p, v, hp, hv, hpassed, hm, Target.text_graph _⟩
  have harguments : Command.ofArguments? ["cypher", "m.mdsl", "-o", "m.cypher"] =
      some (.emit .graph (.ofString "m.mdsl") (some (.ofString "m.cypher"))) := by
    cbv
  have hemission := emission_of_arguments lawful_printed harguments htext fun place hplace => by
    cases hplace
    exact hwrite
  exact ⟨_, hcompile, (hemission.written _ _ hcompile rfl).2⟩

/-- The text for the output is not always printed as it is. -/
theorem not_printed_exactly :
    ¬∀ arguments w t file text content, Command.ofArguments? arguments = some (.emit t file none) →
      w.text? file = some text → compile text t.name = .ok content → (runArguments arguments w).output = content := by
  intro hexactly
  obtain ⟨hmodel, hpath, htext, -⟩ := model_colouredImport
  obtain ⟨p, v, hp, hv, hpassed, hm, himports⟩ := exists_model_of_source hmodel
  have hcompile : compile _ Target.graph.name = _ :=
    compile_eq_ok_iff.2 ⟨p, v, hp, hv, hpassed, hm, Target.text_graph _⟩
  have harguments : Command.ofArguments? ["cypher", "m.mdsl"] = some (.emit .graph (.ofString "m.mdsl") none) := by
    cbv
  have hnone : ∀ place ∈ (none : Option Path), colouredImport.canWrite place = true := by simp
  obtain ⟨-, houtput, -⟩ := Shell.run_emit_ok htext hcompile hnone
  have hprinted := hexactly _ _ _ _ _ _ harguments htext hcompile
  rw [runArguments_emit harguments, houtput] at hprinted
  have himport : "\x1b[0m" ∈ p.toModel.imports := himports ▸ List.mem_singleton_self _
  exact hpath ((lawful_printed.eq_self_iff.1 hprinted).of_part (Graph.import_part himport))

end Arguments

end MediaLanguage

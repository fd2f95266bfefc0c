import MediaLanguage.Proofs.Characters
import MediaLanguage.Proofs.Generation
import MediaLanguage.Proofs.Model.Integers
import MediaLanguage.Proofs.Parser.Provenance
import MediaLanguage.Proofs.Token.Leaves

/-!
# How a compilation ends

A text whose number literals are finite compiles, or fails for a reason that lies in the text: it cannot be cut into
tokens, its tokens are no program, or the program breaks a rule. A program that passes validation is always written
out. Every step that could fail for another reason is given what the steps before it have made sure of: the numbers
that are turned into integers are numbers of the text, a validation that does not pass has found an error, and what is
looked up for a type or a kind of block is there (`Sql.emit_eq`, `Graph.emit_eq`).

* `CompileOutcome` lists the endings, each with what leads to it.
* `compile_outcome`: there is no other ending.
-/

namespace MediaLanguage

open Ast

/-- How the compilation of a text to a target may end. -/
inductive CompileOutcome (source : String) (target : Target) : Except Error String → Prop
  /-- The text cannot be cut into tokens. -/
  | lexical {e : LexicalError} (h : tokenize source = .error e) : CompileOutcome source target (.error (.lexical e))
  /-- The tokens of the text are no program. -/
  | grammar {e : GrammarError} (h : parse source = .error (.grammar e)) :
    CompileOutcome source target (.error (.grammar e))
  /-- The program breaks a rule, which is an error. -/
  | semantic {p : Program} {i : Issue} (hp : parse source = .ok p) (hi : i ∈ (Validator.run {} p).issues)
    (herror : i.severity = .error) :
    CompileOutcome source target (.error (.semantic (errorKind i.code) i.message i.position))
  /-- The program passes and is written out. -/
  | text {p : Program} {text : String} (hp : parse source = .ok p) (hpassed : p.Passes)
    (htext : target.text p.toModel = .ok text) : CompileOutcome source target (.ok text)

/-- No number literal of the text is too large for a number. -/
def HasFiniteNumbers (source : String) : Prop :=
  ∀ s, tokenize source = .ok s → ∀ t ∈ s.tokens, ∀ negative, t.lexeme ≠ .number (.infinite negative)

section Numbers

variable {source : String} {s : TokenStream} {x : Number}

/-- The number of a token is finite: a literal is never not-a-number. -/
theorem HasFiniteNumbers.of_token (h : HasFiniteNumbers source) (hs : tokenize source = .ok s) {t : Token}
    (ht : t ∈ s.tokens) (hleaf : t.leaf? = some (.number x)) : x.isFinite := by
  have hnan : x ≠ .nan := isWritten_of_tokenize hs ht hleaf
  cases x with
  | finite => rfl
  | infinite negative =>
    refine absurd ?_ (h s hs t ht negative)
    unfold Token.leaf? at hleaf
    split at hleaf
    · next hlexeme =>
      cases hleaf
      exact hlexeme
    all_goals cases hleaf
  | nan => contradiction

variable {p : Program}

/-- The numbers of the program that the text writes are finite. -/
theorem HasFiniteNumbers.of_written (h : HasFiniteNumbers source) (hp : parse source = .ok p)
    (hx : Written p.leaves x) : x.isFinite := by
  obtain rfl | hleaf := hx
  · rfl
  · obtain ⟨s, hs, -⟩ := parse_eq_ok_iff.1 hp
    obtain ⟨t, ht, hleaf⟩ := exists_token_of_parse hs hp hleaf
    exact h.of_token hs ht hleaf

/-- No number stops the reading of the text. -/
theorem HasFiniteNumbers.parse_ne_conversion (h : HasFiniteNumbers source) (e : ConversionError) :
    parse source ≠ .error (.conversion e) := by
  intro hp
  obtain ⟨s, hs, t, ht, x, hleaf, herror⟩ := exists_token_of_conversion hp
  have hfinite := h.of_token hs ht hleaf
  cases x with
  | finite => cases herror
  | infinite => cases hfinite
  | nan => cases hfinite

/-- Validation turns the numbers of the program into integers. -/
theorem HasFiniteNumbers.validate_eq (h : HasFiniteNumbers source) (hp : parse source = .ok p) :
    p.validate = .ok (Validator.run {} p).verdict := by
  apply validate_of_finite
  intro x hx
  exact h.of_written hp (p.written_of_mem_integers (p.mem_integers_of_validator hx))

/-- Lowering turns the numbers of the program into integers. -/
theorem HasFiniteNumbers.lower_eq (h : HasFiniteNumbers source) (hp : parse source = .ok p) :
    p.lower = .ok p.toModel := by
  have hfinite : ∀ x ∈ p.integers, x.isFinite := fun x hx => h.of_written hp (p.written_of_mem_integers hx)
  rw [Program.lower, Number.requireIntegers_of_finite hfinite]
  rfl

/-- Every target writes the model of the program. -/
theorem HasFiniteNumbers.exists_text (h : HasFiniteNumbers source) (hp : parse source = .ok p) (target : Target) :
    ∃ text, target.text p.toModel = .ok text := by
  cases target with
  | sql => exact ⟨_, Target.text_sql _⟩
  | graph => exact ⟨_, Target.text_graph _⟩
  | anmi =>
    have hfinite : ∀ x ∈ Anmi.integers p.toModel, x.isFinite := fun x hx => h.of_written hp (p.written_of_mem_anmi hx)
    refine ⟨Sql.Script.render (Anmi.statements p.toModel), ?_⟩
    show orConversionError ((Anmi.script p.toModel).map Sql.Script.render) = _
    rw [Anmi.script, Number.requireIntegers_of_finite hfinite]
    rfl

end Numbers

/-! ## Verdicts and targets -/

/-- A program that does not pass has an issue that is an error, and the first of them is the error of the verdict. -/
theorem exists_error_of_not_passes {p : Program} (h : ¬p.Passes) :
    ∃ i ∈ (Validator.run {} p).issues, i.severity = .error ∧
      (Validator.run {} p).verdict.error? = some i.toError := by
  have hfailed : (Validator.run {} p).verdict.passed = false := by simpa [Program.Passes] using h
  obtain ⟨j, hj, hseverity⟩ : ∃ j ∈ (Validator.run {} p).issues, j.severity = .error := by
    simpa [passes_iff] using h
  have herrors : (Validator.run {} p).verdict.ofSeverity .error ≠ [] :=
    List.ne_nil_of_mem (List.mem_filter.2 ⟨hj, by simp [hseverity]⟩)
  obtain ⟨i, is, hfirst⟩ := List.exists_cons_of_ne_nil herrors
  have hi : i ∈ (Validator.run {} p).verdict.ofSeverity .error := by
    rw [hfirst]
    exact List.mem_cons_self
  obtain ⟨hmem, hseverity⟩ := List.mem_filter.1 hi
  refine ⟨i, hmem, by simpa using hseverity, ?_⟩
  rw [Verdict.error?, hfailed, hfirst]
  rfl

/-- A verdict that passes has no error. -/
theorem Verdict.error?_of_passed {v : Verdict} (h : v.passed = true) : v.error? = none := by
  rw [error?, h]
  rfl

/-- A target is found by its name. -/
theorem Target.ofName_name (target : Target) : ofName target.name = .ok target := by
  cases target <;> rfl

/-! ## Compilation -/

/-- A step that has a result is followed by the next. -/
theorem orConversionError_ok_bind {α β : Type} (a : α) (next : α → Except Error β) :
    (orConversionError (.ok a) >>= next) = next a := rfl

/-- A text with finite number literals compiles, or fails because of what it says. -/
theorem compile_outcome {source : String} (h : HasFiniteNumbers source) (target : Target) :
    CompileOutcome source target (compile source target.name) := by
  unfold compile
  rw [target.ofName_name]
  change CompileOutcome source target (parse source >>= _)
  cases hp : parse source with
  | error e =>
    change CompileOutcome source target (.error e)
    cases hs : tokenize source with
    | error l =>
      simp only [parse, hs] at hp
      cases hp
      exact .lexical hs
    | ok s =>
      cases e with
      | grammar g => exact .grammar hp
      | conversion c => exact absurd hp (h.parse_ne_conversion c)
      | _ =>
        simp only [parse, hs, Parse.result] at hp
        split at hp <;> cases hp
  | ok p =>
    change CompileOutcome source target (orConversionError p.validate >>= _)
    rw [h.validate_eq hp, orConversionError_ok_bind]
    by_cases hpassed : p.Passes
    · obtain ⟨text, htext⟩ := h.exists_text hp target
      rw [Verdict.error?_of_passed hpassed, h.lower_eq hp]
      change CompileOutcome source target (target.generate p.toModel >>= _)
      rw [Target.generate_eq, htext]
      exact .text hp hpassed htext
    · obtain ⟨i, hi, herror, hfirst⟩ := exists_error_of_not_passes hpassed
      rw [hfirst]
      exact .semantic hp hi herror

/-- A family of one outlet with a number. -/
def outletSource : String :=
  "family \"F\" \x7b outlet \"A\" \x7b identity \x7b id = 1; \x7d \x7d \x7d"

/-- The number of the outlet is finite. -/
theorem hasFiniteNumbers_outletSource : HasFiniteNumbers outletSource := by
  have hfinite : ∀ s ∈ (tokenize outletSource).toOption, ∀ t ∈ s.tokens,
      t.lexeme ≠ .number (.infinite true) ∧ t.lexeme ≠ .number (.infinite false) := by
    have hchars : outletSource.toList = _ := String.toList_ofList
    rw [tokenize_of_toList hchars]
    decide +kernel
  intro s hs t ht negative
  obtain ⟨htrue, hfalse⟩ := hfinite s (by rw [hs]; rfl) t ht
  cases negative with
  | true => exact htrue
  | false => exact hfalse

/-- The family compiles to the tables of a database, or fails because of what it says. -/
theorem compile_outcome_outletSource :
    HasFiniteNumbers outletSource ∧ CompileOutcome outletSource .anmi (compile outletSource "sql_anmi") :=
  ⟨hasFiniteNumbers_outletSource, compile_outcome hasFiniteNumbers_outletSource .anmi⟩

end MediaLanguage

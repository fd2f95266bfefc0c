import MediaLanguage.Proofs.Validation.Raised

/-!
# A validator over many calls

A validator can be asked for whole validations or for single passes, on one program after the other, and its context
and issues can be changed by hand in between. What the rules add stands below the context they are asked in.

* `Validator.exists_perform_call`: what one call keeps. It loses no issue and no symbol, and a pass over a program
  leaves the context as it was.
* `Validator.perform_session`: what any sequence of calls keeps, call by call.
-/

namespace MediaLanguage

open Ast

namespace Validator

/-! ## Calls -/

/-- What a validator can do with a program. -/
inductive Pass where
  | validate | collectDeclarations | checkStatements | checkReferences
deriving DecidableEq

/-- The numbers of a program that a pass turns into integers. -/
def Pass.integers (p : Program) : Pass → List Number
  | validate => Validator.integers p
  | collectDeclarations => p.declaredNumbers
  | checkStatements => p.statements.flatMap Statement.referredNumbers
  | checkReferences => p.baseNumbers

/-- The validator after a pass. -/
def Pass.apply (v : Validator) (p : Program) : Pass → Validator
  | validate => v.run p
  | collectDeclarations => v.collectDeclarations p
  | checkStatements => v.checkStatements p
  | checkReferences => v.checkReferences p

/-- A call of a validator. -/
inductive Call where
  | program (pass : Pass) (p : Program)
  | push (name : String)
  | pop
  | add (severity : Severity) (code message : String) (position : Position) (suggestion : Option String)

/-- The validator after a call; a pass fails on a number that it cannot turn into an integer. -/
def Call.perform (v : Validator) : Call → Except ConversionError Validator
  | program pass p => (Number.requireIntegers (pass.integers p)).map fun _ => pass.apply v p
  | push name => .ok (v.push name)
  | pop => .ok v.pop
  | add severity code message position suggestion =>
    .ok (v.report [v.issue severity code message position suggestion])

/-- The validator after some calls. -/
def perform (v : Validator) : List Call → Except ConversionError Validator
  | [] => .ok v
  | call :: calls => do (← call.perform v).perform calls

/-- Whether the calls suit a context of some depth: the numbers of their programs are finite, and no call leaves a
declaration when there is none around. -/
def Suits : Nat → List Call → Prop
  | _, [] => True
  | depth, .program pass p :: calls => (∀ x ∈ pass.integers p, x.isFinite) ∧ Suits depth calls
  | depth, .push _ :: calls => Suits (depth + 1) calls
  | depth, .pop :: calls => 0 < depth ∧ Suits (depth - 1) calls
  | depth, .add .. :: calls => Suits depth calls

/-- Whether a call is one that works on a program. -/
def Call.isProgram : Call → Bool
  | program .. => true
  | _ => false

instance decidableSuits : (depth : Nat) → (calls : List Call) → Decidable (Suits depth calls)
  | _, [] => .isTrue trivial
  | depth, .program _ _ :: calls => @instDecidableAnd _ _ inferInstance (decidableSuits depth calls)
  | depth, .push _ :: calls => decidableSuits (depth + 1) calls
  | depth, .pop :: calls => @instDecidableAnd _ _ inferInstance (decidableSuits (depth - 1) calls)
  | depth, .add .. :: calls => decidableSuits depth calls

/-! ## What calls keep -/

/-- A validator has all that another has: its issues, behind which it has further ones below a path, and its
symbols. -/
structure Extends (path : ContextPath) (v w : Validator) : Prop where
  issues : ∃ added, w.issues = v.issues ++ added ∧ AllBelow path added
  symbols : v.symbols.keys ⊆ w.symbols.keys

section Extends

variable {path : ContextPath} {u v w : Validator}

theorem Extends.trans (h : Extends path u v) (h' : Extends path v w) : Extends path u w := by
  obtain ⟨added, hadded, hbelow⟩ := h.issues
  obtain ⟨added', hadded', hbelow'⟩ := h'.issues
  refine ⟨⟨added ++ added', ?_, allBelow_append.2 ⟨hbelow, hbelow'⟩⟩, List.Subset.trans h.symbols h'.symbols⟩
  rw [hadded', hadded, List.append_assoc]

theorem Extends.shorten {names : List String} (h : Extends (path ++ names) v w) : Extends path v w := by
  obtain ⟨added, hadded, hbelow⟩ := h.issues
  exact ⟨⟨added, hadded, hbelow.shorten⟩, h.symbols⟩

/-- A validator with other issues behind its own. -/
theorem extends_report {issues : List Issue} (h : AllBelow path issues) : Extends path v (v.report issues) :=
  ⟨⟨issues, rfl, h⟩, List.Subset.refl _⟩

/-- A validator in another context. -/
theorem extends_of_eq (hissues : w.issues = v.issues) (hsymbols : w.symbols = v.symbols) : Extends path v w :=
  ⟨⟨[], by rw [hissues, List.append_nil], allBelow_nil⟩, by rw [hsymbols]; exact List.Subset.refl _⟩

variable (v) (p : Program)

theorem extends_collectDeclarations : Extends v.context v (v.collectDeclarations p) := by
  rw [collectDeclarations_eq]
  refine ⟨⟨_, rfl, (v.symbols.allRaised_collect v.context p.declarations).below⟩, ?_⟩
  intro symbol hsymbol
  exact Symbols.mem_keys_collect.2 (.inl hsymbol)

theorem extends_checkStatements : Extends v.context v (v.checkStatements p) := by
  rw [checkStatements_eq]
  exact extends_report (allRaised_flatMap.2 fun s _ => s.allRaised_check v.context v.symbols).below

theorem extends_checkReferences : Extends v.context v (v.checkReferences p) := by
  rw [checkReferences_eq]
  exact extends_report (p.allRaised_checkReferences v.context v.symbols).below

/-- Collecting declarations enters none. -/
theorem context_collectDeclarations : (v.collectDeclarations p).context = v.context := by
  rw [collectDeclarations_eq]
  rfl

/-- The rules for statements leave what they enter. -/
theorem context_checkStatements : (v.checkStatements p).context = v.context := by
  rw [checkStatements_eq]
  rfl

/-- The rules for references leave what they enter. -/
theorem context_checkReferences : (v.checkReferences p).context = v.context := by
  rw [checkReferences_eq]
  rfl

/-- A validation leaves the program that it enters. -/
theorem context_run : (v.run p).context = v.context := by
  rw [run_eq, pop, context_checkReferences, context_checkStatements, context_collectDeclarations, push,
    List.dropLast_concat]

/-- The steps of a validation work inside the program, which is below the context. -/
theorem extends_run : Extends v.context v (v.run p) := by
  have hcollect := extends_collectDeclarations (v.push "Program") p
  have hcheck := extends_checkStatements ((v.push "Program").collectDeclarations p) p
  have hrefer := extends_checkReferences (((v.push "Program").collectDeclarations p).checkStatements p) p
  rw [context_collectDeclarations] at hcheck
  rw [context_checkStatements, context_collectDeclarations] at hrefer
  have hpush : Extends v.context v (v.push "Program") := extends_of_eq rfl rfl
  rw [run_eq]
  exact (hpush.trans ((hcollect.trans hcheck).trans hrefer).shorten).trans (extends_of_eq rfl rfl)

end Extends

/-- What a call keeps: nothing is lost, what is added stands below the context, and a pass over a program leaves the
context as it is. -/
structure Call.Keeps (call : Call) (v w : Validator) : Prop where
  extended : Extends v.context v w
  context : call.isProgram → w.context = v.context

section Calls

variable {v : Validator}

/-- A pass keeps the context, and what it adds stands below it. -/
theorem keeps_pass (v : Validator) (pass : Pass) (p : Program) :
    (Call.program pass p).Keeps v (pass.apply v p) := by
  cases pass with
  | validate => exact ⟨extends_run v p, fun _ => context_run v p⟩
  | collectDeclarations => exact ⟨extends_collectDeclarations v p, fun _ => context_collectDeclarations v p⟩
  | checkStatements => exact ⟨extends_checkStatements v p, fun _ => context_checkStatements v p⟩
  | checkReferences => exact ⟨extends_checkReferences v p, fun _ => context_checkReferences v p⟩

/-- A call that suits the context is answered, keeps what it has to keep, and leaves a context that suits the next
calls. -/
theorem exists_perform_call {call : Call} {calls : List Call} (h : Suits v.context.length (call :: calls)) :
    ∃ w, call.perform v = .ok w ∧ call.Keeps v w ∧ Suits w.context.length calls := by
  cases call with
  | program pass p =>
    obtain ⟨hfinite, hcalls⟩ := h
    have hkeeps := keeps_pass v pass p
    refine ⟨pass.apply v p, ?_, hkeeps, ?_⟩
    · rw [Call.perform, Number.requireIntegers_of_finite hfinite]
      rfl
    · rwa [hkeeps.context rfl]
  | push name =>
    refine ⟨v.push name, rfl, ⟨extends_of_eq rfl rfl, by simp [Call.isProgram]⟩, ?_⟩
    rw [push, List.length_append]
    exact h
  | pop =>
    refine ⟨v.pop, rfl, ⟨extends_of_eq rfl rfl, by simp [Call.isProgram]⟩, ?_⟩
    rw [pop, List.length_dropLast]
    exact h.2
  | add severity code message position suggestion =>
    refine ⟨_, rfl, ⟨extends_report ?_, by simp [Call.isProgram]⟩, h⟩
    intro i hi
    rw [List.mem_singleton] at hi
    exact ⟨[], by rw [hi, List.append_nil]; rfl⟩

/-- The counts of a summary add up to the number of issues. -/
theorem summary_total (v : Validator) : v.summary.errors + v.summary.warnings + v.summary.info = v.issues.length := by
  simp only [summary, count]
  induction v.issues with
  | nil => rfl
  | cons i issues ih =>
    have hseverity : ∀ s, List.countP (fun i : Issue => i.severity == s) (i :: issues) =
        List.countP (fun i : Issue => i.severity == s) issues + if i.severity = s then 1 else 0 := by
      intro s
      rw [List.countP_cons]
      simp
    rw [hseverity, hseverity, hseverity, List.length_cons, ← ih]
    cases i.severity <;> simp <;> omega

/-- Calls that suit the context of a validator are all answered. Each keeps what it has to keep, so over all of them
issues are only added at the end and no symbol is lost; and after each the counts add up to the number of issues. -/
theorem perform_session {calls : List Call} (h : Suits v.context.length calls) :
    ∃ w : Validator, v.perform calls = .ok w ∧ v.issues <+: w.issues ∧ v.symbols.keys ⊆ w.symbols.keys ∧
      w.summary.errors + w.summary.warnings + w.summary.info = w.issues.length ∧
      ∀ (earlier : List Call) (call : Call) (later : List Call), calls = earlier ++ call :: later →
        ∃ a b : Validator, v.perform earlier = .ok a ∧ call.perform a = .ok b ∧ b.perform later = .ok w ∧
          call.Keeps a b ∧ b.summary.errors + b.summary.warnings + b.summary.info = b.issues.length := by
  induction calls generalizing v with
  | nil =>
    refine ⟨v, rfl, List.prefix_rfl, List.Subset.refl _, v.summary_total, ?_⟩
    intro earlier call later hsplit
    simp at hsplit
  | cons call calls ih =>
    obtain ⟨u, hperform, hkeeps, hcalls⟩ := exists_perform_call h
    obtain ⟨w, hrest, hissues, hsymbols, htotal, hsteps⟩ := ih hcalls
    obtain ⟨added, hadded, -⟩ := hkeeps.extended.issues
    have hall : v.perform (call :: calls) = .ok w := by
      rw [perform, hperform]
      exact hrest
    refine ⟨w, hall, .trans ⟨added, hadded.symm⟩ hissues, List.Subset.trans hkeeps.extended.symbols hsymbols,
      htotal, ?_⟩
    intro earlier call' later hsplit
    cases earlier with
    | nil =>
      obtain ⟨rfl, rfl⟩ := List.cons.inj hsplit
      exact ⟨v, u, rfl, hperform, hrest, hkeeps, u.summary_total⟩
    | cons first earlier =>
      obtain ⟨rfl, htail⟩ := List.cons.inj hsplit
      obtain ⟨a, b, ha, hb, hw, hkept, hcounts⟩ := hsteps earlier call' later htail
      refine ⟨a, b, ?_, hb, hw, hkept, hcounts⟩
      rw [perform, hperform]
      exact ha

/-- A program with a unit and with data is validated inside another declaration and collected once more; a warning by
hand and a further pass follow. -/
def sampleCalls : List Call :=
  [.push "Batch", .program .validate ⟨[.unit ⟨"u", [], ⟨1, 1, 0⟩⟩, .data ⟨.finite false 1 0, [], ⟨2, 1, 9⟩⟩]⟩,
    .program .collectDeclarations ⟨[.unit ⟨"u", [], ⟨1, 1, 0⟩⟩]⟩, .pop,
    .add .warning "CODE" "message" ⟨1, 1, 0⟩ none,
    .program .checkStatements ⟨[.data ⟨.finite false 1 0, [], ⟨2, 1, 9⟩⟩]⟩]

/-- The calls suit a new validator. -/
theorem perform_session_sampleCalls :
    Suits 0 sampleCalls ∧
    ∃ w : Validator, ({} : Validator).perform sampleCalls = .ok w ∧ [] <+: w.issues ∧ [] ⊆ w.symbols.keys ∧
      w.summary.errors + w.summary.warnings + w.summary.info = w.issues.length ∧
      ∀ (earlier : List Call) (call : Call) (later : List Call), sampleCalls = earlier ++ call :: later →
        ∃ a b : Validator, ({} : Validator).perform earlier = .ok a ∧ call.perform a = .ok b ∧
          b.perform later = .ok w ∧ call.Keeps a b ∧
          b.summary.errors + b.summary.warnings + b.summary.info = b.issues.length := by
  have hsuits : Suits 0 sampleCalls := by decide
  exact ⟨hsuits, perform_session hsuits⟩

end Calls

end Validator

end MediaLanguage

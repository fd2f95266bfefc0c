import Mathlib.Data.List.Perm.Basic
import MediaLanguage.Proofs.Validation.Step

/-!
# Validation does not depend on the order of statements

The first step of a validation goes through the statements in order and fills the table of symbols; the other two ask
the table only which symbols are declared. In another order the table declares the same, so the rules and the
references give the same issues (`Statement.check_congr`, `Program.checkReferences_perm`), and the first step finds
the same symbols declared again, though perhaps at another of their places.

* `validate_perm`: the verdicts on a program and on its statements in another order pass or fail alike, with the same
  counts, and their issues say the same; all but the issues of symbols that are declared again are the same also in
  their places and hints.
-/

namespace MediaLanguage

open Ast

/-- The rules that are broken by declaring a symbol again. -/
def redeclarationCodes : List String :=
  ["IMPORT_REDECLARED", "VAR_REDECLARED", "TEMPLATE_REDECLARED", "UNIT_REDECLARED", "VOCAB_REDECLARED",
   "FAMILY_REDECLARED", "OUTLET_ID_DUPLICATE"]

/-- Whether an issue says that a symbol is declared again. -/
def Issue.isRedeclaration (i : Issue) : Bool :=
  redeclarationCodes.contains i.code

/-- The issues of declarations say that symbols are declared again. -/
theorem isRedeclaration_collect {path : List String} {s : Symbols} {declarations : List (Symbol × Position)}
    {i : Issue} (h : i ∈ (s.collect path declarations).2) : i.isRedeclaration = true := by
  induction declarations generalizing s with
  | nil => cases h
  | cons declaration declarations ih =>
    obtain ⟨symbol, position⟩ := declaration
    rw [Symbols.collect, List.mem_append] at h
    obtain hhead | hrest := h
    · obtain ⟨earlier, -, rfl⟩ := Option.map_eq_some_iff.1 (Option.mem_toList.1 hhead)
      cases symbol <;> rfl
    · exact ih hrest

/-! ## Tables that declare the same -/

section Congr

variable {s t : Symbols}

/-- Tables that declare the same symbols. -/
def Symbols.Agree (s t : Symbols) : Prop :=
  ∀ symbol, s.declares symbol = t.declares symbol

/-- Tables with the same symbols declare the same. -/
theorem Symbols.agree_of_perm (h : s.keys.Perm t.keys) : s.Agree t := by
  intro symbol
  rw [Bool.eq_iff_iff, declares_iff, declares_iff, h.mem_iff]

namespace Ast

/-- The rules for data ask only what is declared. -/
theorem Data.check_congr (h : s.Agree t) (path : ContextPath) (d : Data) : d.check s path = d.check t path := by
  simp only [Data.check, h _]

/-- The rules for links ask only what is declared. -/
theorem Link.check_congr (h : s.Agree t) (path : ContextPath) (l : Link) : l.check s path = l.check t path := by
  cases l with
  | diachronic l => simp only [Link.check, DiachronicLink.check, h _]
  | synchronous l => simp only [Link.check, SynchronousLink.check, h _]

/-- The rules for the members of families ask only what is declared. -/
theorem FamilyMember.check_congr (h : s.Agree t) (path : ContextPath) (m : FamilyMember) :
    m.check s path = m.check t path := by
  cases m with
  | data d => exact d.check_congr h path
  | link l => exact l.check_congr h path
  | _ => rfl

/-- The rules for families ask only what is declared. -/
theorem Family.check_congr (h : s.Agree t) (path : ContextPath) (f : Family) : f.check s path = f.check t path := by
  have hmembers : FamilyMember.check s = FamilyMember.check t := by
    funext path m
    exact m.check_congr h path
  simp only [Family.check, hmembers]

/-- The rules for statements ask only what is declared. -/
theorem Statement.check_congr (h : s.Agree t) (path : ContextPath) (d : Statement) :
    d.check s path = d.check t path := by
  cases d with
  | family d => exact d.check_congr h path
  | data d => exact d.check_congr h path
  | link d => exact d.check_congr h path
  | _ => rfl

/-- The rule for what outlets take over asks only what is declared. -/
theorem Family.checkInheritance_congr (h : s.Agree t) (path : ContextPath) (f : Family) :
    f.checkInheritance s path = f.checkInheritance t path := by
  have houtlets : Outlet.checkInheritance s = Outlet.checkInheritance t := by
    funext path o
    simp only [Outlet.checkInheritance, h _]
  simp only [Family.checkInheritance, houtlets]

/-- The rule for variables asks only what is declared. -/
theorem checkUse_congr (h : s.Agree t) (path : ContextPath) (use : String × Position) :
    checkUse s path use = checkUse t path use := by
  simp only [checkUse, h _]

/-- The rules for references ask only what is declared. -/
theorem Program.checkReferences_congr (h : s.Agree t) (path : ContextPath) (p : Program) :
    p.checkReferences s path = p.checkReferences t path := by
  have hinheritance : Family.checkInheritance s = Family.checkInheritance t := by
    funext path f
    exact f.checkInheritance_congr h path
  have huses : checkUse s = checkUse t := by
    funext path use
    exact checkUse_congr h path use
  simp only [Program.checkReferences, hinheritance, huses]

end Ast

end Congr

/-! ## Statements in another order -/

section Perm

variable {p q : Program} {s t : Symbols}

namespace Ast

/-- The declarations of statements in another order. -/
theorem Program.declarations_perm (h : p.statements.Perm q.statements) : p.declarations.Perm q.declarations :=
  h.flatMap_right _

/-- The families of statements in another order. -/
theorem Program.families_perm (h : p.statements.Perm q.statements) : p.families.Perm q.families :=
  h.filterMap _

/-- The outlets of statements in another order. -/
theorem Program.outlets_perm (h : p.statements.Perm q.statements) : p.outlets.Perm q.outlets :=
  (families_perm h).flatMap_right _

/-- The variables that statements in another order use. -/
theorem Program.variableUses_perm (h : p.statements.Perm q.statements) : p.variableUses.Perm q.variableUses :=
  ((h.flatMap_right _).flatMap_right _).filterMap _

/-- The rules for statements in another order, against a table that declares the same. -/
theorem Program.checkStatements_perm (h : p.statements.Perm q.statements) (hagree : s.Agree t) (path : ContextPath) :
    (p.statements.flatMap (Statement.check s path)).Perm (q.statements.flatMap (Statement.check t path)) := by
  have hcheck : Statement.check s path = Statement.check t path := funext (Statement.check_congr hagree path)
  rw [hcheck]
  exact h.flatMap_right _

/-- The rules for references in another order, against a table that declares the same. -/
theorem Program.checkReferences_perm (h : p.statements.Perm q.statements) (hagree : s.Agree t) (path : ContextPath) :
    (p.checkReferences s path).Perm (q.checkReferences t path) := by
  rw [Program.checkReferences_congr hagree path p]
  exact ((families_perm h).flatMap_right _).append ((variableUses_perm h).flatMap_right _)

end Ast

/-- The numbers that validation turns into integers, in another order. -/
theorem Validator.integers_perm (h : p.statements.Perm q.statements) : (integers p).Perm (integers q) := by
  refine .append (.append ?_ (h.flatMap_right _)) ?_
  · exact (Program.outlets_perm h).filterMap _
  · exact (Program.outlets_perm h).filterMap _

/-- Finite numbers have integer parts. -/
theorem Number.requireIntegers_of_finite {xs : List Number} (h : ∀ x ∈ xs, x.isFinite) :
    Number.requireIntegers xs = .ok () := by
  have hnone : xs.findSome? Number.conversionError? = none := by
    rw [List.findSome?_eq_none_iff]
    intro x hx
    have hfinite := h x hx
    cases x with
    | finite => rfl
    | infinite => cases hfinite
    | nan => cases hfinite
  rw [Number.requireIntegers, hnone]

end Perm

/-! ## Verdicts -/

/-- The table and the issues of the first step of a validation. -/
def Ast.Program.collected (p : Program) : Symbols × List Issue :=
  Symbols.collect ["Program"] [] p.declarations

/-- The issues of the later steps of a validation. -/
def Ast.Program.ruleIssues (p : Program) : List Issue :=
  p.statements.flatMap (Statement.check p.collected.1 ["Program"]) ++ p.checkReferences p.collected.1 ["Program"]

/-- The issues of a validation, step by step. -/
theorem Validator.issues_run (p : Program) : (run {} p).issues = p.collected.2 ++ p.ruleIssues := by
  rw [run_eq, checkReferences_eq, checkStatements_eq, collectDeclarations_eq]
  show (([] ++ p.collected.2) ++ _) ++ _ = p.collected.2 ++ (_ ++ _)
  rw [List.nil_append, List.append_assoc]
  rfl

/-- The table of a validation. -/
theorem Validator.symbols_run (p : Program) : (run {} p).symbols = p.collected.1 := by
  rw [run_eq, checkReferences_eq, checkStatements_eq, collectDeclarations_eq]
  rfl

/-- A severity is counted in what the issues say. -/
theorem Validator.count_eq (v : Validator) (severity : Severity) :
    v.count severity = (v.issues.map Issue.finding).countP fun f => f.severity == severity := by
  rw [List.countP_map]
  rfl

section Verdicts

variable {p q : Program}

/-- The tables of statements in another order have the same symbols. -/
theorem collected_keys_perm (h : p.statements.Perm q.statements) : p.collected.1.keys.Perm q.collected.1.keys :=
  Symbols.keys_collect_perm List.nodup_nil (Program.declarations_perm h)

/-- The rules find the same issues of statements in another order. -/
theorem ruleIssues_perm (h : p.statements.Perm q.statements) : p.ruleIssues.Perm q.ruleIssues := by
  have hagree := Symbols.agree_of_perm (collected_keys_perm h)
  exact (Program.checkStatements_perm h hagree _).append (Program.checkReferences_perm h hagree _)

/-- The issues of statements in another order say the same. -/
theorem findings_perm (h : p.statements.Perm q.statements) :
    ((Validator.run {} p).issues.map Issue.finding).Perm ((Validator.run {} q).issues.map Issue.finding) := by
  rw [Validator.issues_run, Validator.issues_run, List.map_append, List.map_append]
  exact (Symbols.findings_collect_perm (Program.declarations_perm h)).append ((ruleIssues_perm h).map _)

/-- The counts of statements in another order. -/
theorem summary_eq (h : p.statements.Perm q.statements) :
    (Validator.run {} p).summary = (Validator.run {} q).summary := by
  have hcount : ∀ severity, (Validator.run {} p).count severity = (Validator.run {} q).count severity := by
    intro severity
    rw [Validator.count_eq, Validator.count_eq, (findings_perm h).countP_eq]
  have hconstructs : p.collected.1.countP (fun d => d.1.isConstruct) =
      q.collected.1.countP fun d => d.1.isConstruct := by
    have hkeys := (collected_keys_perm h).countP_eq Symbol.isConstruct
    rwa [Symbols.keys, Symbols.keys, List.countP_map, List.countP_map] at hkeys
  simp only [Validator.summary, hcount, Validator.symbols_run, hconstructs]

/-- The issues of rules and references, which no step collects with the declarations. -/
theorem filter_not_isRedeclaration (p : Program) :
    (Validator.run {} p).issues.filter (fun i => !i.isRedeclaration) =
      p.ruleIssues.filter fun i => !i.isRedeclaration := by
  have hcollected : p.collected.2.filter (fun i => !i.isRedeclaration) = [] := by
    rw [List.filter_eq_nil_iff]
    intro i hi
    simp [isRedeclaration_collect hi]
  rw [Validator.issues_run, List.filter_append, hcollected, List.nil_append]

/-- The verdicts on a program and on its statements in another order: both are reached, pass or fail alike and have
the same counts; their issues say the same, and but for symbols that are declared again they are the same. -/
theorem validate_perm (h : p.statements.Perm q.statements) (hfinite : ∀ x ∈ Validator.integers p, x.isFinite) :
    ∃ v w, p.validate = .ok v ∧ q.validate = .ok w ∧ v.passed = w.passed ∧ v.summary = w.summary ∧
      (v.issues.map Issue.finding).Perm (w.issues.map Issue.finding) ∧
      (v.issues.filter fun i => !i.isRedeclaration).Perm (w.issues.filter fun i => !i.isRedeclaration) := by
  have hfinite' : ∀ x ∈ Validator.integers q, x.isFinite := by
    intro x hx
    exact hfinite x ((Validator.integers_perm h).mem_iff.2 hx)
  refine ⟨(Validator.run {} p).verdict, (Validator.run {} q).verdict, ?_, ?_, ?_, summary_eq h, findings_perm h, ?_⟩
  · rw [Program.validate, Number.requireIntegers_of_finite hfinite]
    rfl
  · rw [Program.validate, Number.requireIntegers_of_finite hfinite']
    rfl
  · simp only [Validator.verdict, summary_eq h]
  · show ((Validator.run {} p).issues.filter _).Perm ((Validator.run {} q).issues.filter _)
    rw [filter_not_isRedeclaration, filter_not_isRedeclaration]
    exact (ruleIssues_perm h).filter _

/-- A unit that is declared twice, and data for an outlet, in the opposite order. -/
theorem validate_perm_twice :
    (∀ x ∈ Validator.integers ⟨[.unit ⟨"u", [], ⟨1, 1, 0⟩⟩, .unit ⟨"u", [], ⟨2, 1, 9⟩⟩,
      .data ⟨.finite false 1 0, [], ⟨3, 1, 18⟩⟩]⟩, x.isFinite) ∧
    ∃ v w,
      Program.validate ⟨[.unit ⟨"u", [], ⟨1, 1, 0⟩⟩, .unit ⟨"u", [], ⟨2, 1, 9⟩⟩,
        .data ⟨.finite false 1 0, [], ⟨3, 1, 18⟩⟩]⟩ = .ok v ∧
      Program.validate ⟨[.data ⟨.finite false 1 0, [], ⟨3, 1, 18⟩⟩, .unit ⟨"u", [], ⟨2, 1, 9⟩⟩,
        .unit ⟨"u", [], ⟨1, 1, 0⟩⟩]⟩ = .ok w ∧
      v.passed = w.passed ∧ v.summary = w.summary ∧
      (v.issues.map Issue.finding).Perm (w.issues.map Issue.finding) ∧
      (v.issues.filter fun i => !i.isRedeclaration).Perm (w.issues.filter fun i => !i.isRedeclaration) := by
  have hfinite : ∀ x ∈ Validator.integers ⟨[.unit ⟨"u", [], ⟨1, 1, 0⟩⟩, .unit ⟨"u", [], ⟨2, 1, 9⟩⟩,
      .data ⟨.finite false 1 0, [], ⟨3, 1, 18⟩⟩]⟩, x.isFinite := by decide
  exact ⟨hfinite, validate_perm (List.reverse_perm _).symm hfinite⟩

end Verdicts

end MediaLanguage

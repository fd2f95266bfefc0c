import Mathlib.Data.List.Forall2
import MediaLanguage.Parser.Market
import MediaLanguage.Proofs.Ast.View
import MediaLanguage.Proofs.Parser.Progress

/-!
# Two runs side by side

A `Pairing` compares runs over two sequences of tokens. Both start with tokens that are alike (`Pairing.Alike`) and go
on with tokens of their own, about which nothing is known but the kind of the first. `Pairing.Sim` says of two
productions that they do the same as long as they stay inside the tokens that are alike: they leave their cursors
beside each other, and give nodes that look the same through the views of the pairing, or fail alike.

A run that uses up the tokens that are alike can depend on what stands behind them. In the mode `within` nothing is
said about such a run. In the mode `ending` it is covered if it succeeds and the first text ends there: productions
that end with a token of their own, or with marks that may be missing, cannot tell the end of a text from a line
break.

* `Sim.bind` and `Sim.bind_of_consumes` are the rules for sequences.
* `Sim.of_inside`: a production that reads a token starts inside the tokens that are alike.
-/

namespace MediaLanguage

open Ast

/-- Kinds that no production asks for at the end of a statement. -/
def Kind.isBlank (k : Kind) : Bool :=
  k == .newline || k == .endOfInput

/-- Kinds that are the same, or both blank. -/
def Kind.Near (k l : Kind) : Prop :=
  k = l ∨ k.isBlank ∧ l.isBlank

/-- One of two kinds that are near is a kind that is not blank when the other is. -/
theorem Kind.Near.eq_iff {k l m : Kind} (h : k.Near l) (hm : m.isBlank = false) : k = m ↔ l = m := by
  obtain rfl | ⟨hk, hl⟩ := h
  · rfl
  · constructor <;> rintro rfl
    · rw [hm] at hk
      cases hk
    · rw [hm] at hl
      cases hl

/-- Kinds that are near are the same to a test for a kind that is not blank. -/
theorem Kind.Near.beq_eq {k l m : Kind} (h : k.Near l) (hm : m.isBlank = false) : (k == m) = (l == m) := by
  rw [Bool.eq_iff_iff, beq_iff_eq, beq_iff_eq]
  exact h.eq_iff hm

/-- How runs over two sequences of tokens are compared: the views through which nodes have to look the same, what is
kept of the cause of an error, and what stands behind the tokens that are alike. -/
structure Pairing where
  view : View
  view' : View
  cause : GrammarCause → GrammarCause
  after : Cursor
  after' : Cursor
  /-- The views make the same of a name. -/
  name_eq : view.name = view'.name
  /-- The views make the same of the levels that are written by expressions that look the same. -/
  level_eq : ∀ e e' : Expr, e.view view = e'.view view' →
    view.level (Parser.aggregationText e) = view'.level (Parser.aggregationText e')
  /-- What stands behind starts alike. -/
  heads : after.current.kind.Near after'.current.kind

namespace Pairing

/-- Nodes that look the same. -/
abbrev Same (P : Pairing) {α : Type} (view : View → α → α) (a b : α) : Prop :=
  view P.view a = view P.view' b

/-- Names that look the same. -/
abbrev SameName (P : Pairing) (a b : String) : Prop :=
  P.view.name a = P.view'.name b

/-- Tokens that a production cannot tell apart, but for their places and spellings. -/
structure Alike (P : Pairing) (t t' : Token) : Prop where
  lexeme : t.lexeme = t'.lexeme
  place : P.view.place t.position = P.view'.place t'.position
  /-- Words look the same, and as fields they are the same. -/
  word : t.kind = .identifier ∨ t.kind.isKeyword → P.SameName t.text t'.text ∧ Text.lower t.text = Text.lower t'.text
  /-- Errors that show the spellings look the same. -/
  unexpected : ∀ expected,
    P.cause (.unexpectedToken t.text expected) = P.cause (.unexpectedToken t'.text expected)
  unknown : ∀ kind, P.cause (Parser.unknownField kind t.text) = P.cause (Parser.unknownField kind t'.text)

/-- Cursors that have tokens to read that are alike, up to what stands behind them. -/
def Beside (P : Pairing) (c c' : Cursor) : Prop :=
  ∃ own own', List.Forall₂ P.Alike own own' ∧
    c = ⟨own ++ P.after.rest, P.after.finish⟩ ∧ c' = ⟨own' ++ P.after'.rest, P.after'.finish⟩

/-- Nothing stands behind the tokens that are alike. -/
def Whole (P : Pairing) : Prop :=
  P.after.rest = [] ∧ P.after'.rest = [] ∧ P.view.place P.after.finish = P.view'.place P.after'.finish

/-- The cursor is at one of the tokens that are alike, or at the end of a whole text. -/
def Inside (P : Pairing) (c : Cursor) : Prop :=
  P.Whole ∨ P.after.rest.length < c.rest.length

/-- Which runs are compared: those that stay inside, or also those that succeed and use up the first text. -/
inductive Mode where
  | within
  | ending

/-- The runs that are compared. -/
def Covers (P : Pairing) (k : Mode) {α : Type} (run : Except Failure α × Cursor) : Prop :=
  P.Inside run.2 ∨ k = .ending ∧ P.after.rest = [] ∧ ∃ a, run.1 = .ok a

/-- Results that are related, or failures that look the same. -/
inductive Outcome (P : Pairing) {α β : Type} (R : α → β → Prop) : Except Failure α → Except Failure β → Prop
  | ok {a : α} {b : β} (h : R a b) : Outcome P R (.ok a) (.ok b)
  | grammar {e e' : GrammarError} (hcause : P.cause e.cause = P.cause e'.cause)
      (hplace : P.view.place e.position = P.view'.place e'.position) :
      Outcome P R (.error (.grammar e)) (.error (.grammar e'))
  | conversion (e : ConversionError) : Outcome P R (.error (.conversion e)) (.error (.conversion e))

/-- At `c` and `c'`, `p` and `q` do the same. -/
def Sim (P : Pairing) (k : Mode) {α β : Type} (R : α → β → Prop) (p : Parser α) (q : Parser β) (c c' : Cursor) : Prop :=
  P.Covers k (p c) → P.Outcome R (p c).1 (q c').1 ∧ P.Beside (p c).2 (q c').2

variable {P : Pairing}

/-! ## Cursors -/

section Cursors

variable {c c' d : Cursor}

/-- Tokens that are alike are of one kind. -/
theorem Alike.kind {t t' : Token} (h : P.Alike t t') : t.kind = t'.kind :=
  congrArg Lexeme.kind h.lexeme

/-- The ends of whole texts are alike. -/
theorem Whole.alike (h : P.Whole) : P.Alike (.finish P.after.finish) (.finish P.after'.finish) where
  lexeme := rfl
  place := h.2.2
  word := by simp [Token.finish, Token.kind, Lexeme.kind, Kind.isKeyword]
  unexpected _ := rfl
  unknown _ := rfl

/-- A cursor in front of one that is inside is inside. -/
theorem Inside.of_reaches (h : P.Inside d) (hreach : c.Reaches d) : P.Inside c := by
  obtain h | h := h
  · exact .inl h
  · exact .inr (Nat.lt_of_lt_of_le h hreach.length_le)

/-- Where the first text ends with the tokens that are alike, a cursor that has a token to read is inside. -/
theorem Inside.of_lt {n : Nat} (hafter : P.after.rest = []) (h : n < c.rest.length) : P.Inside c := by
  right
  rw [hafter]
  exact Nat.lt_of_le_of_lt (Nat.zero_le n) h

/-- Cursors beside each other have equally many tokens to read, up to what stands behind. -/
theorem Beside.length (h : P.Beside c c') :
    c.rest.length + P.after'.rest.length = c'.rest.length + P.after.rest.length := by
  obtain ⟨own, own', halike, rfl, rfl⟩ := h
  have := halike.length_eq
  simp only [List.length_append]
  omega

/-- Cursors beside each other are both at the end of what is read of a whole text, or at tokens that are alike. -/
theorem Beside.cases (h : P.Beside c c') (hin : P.Inside c) :
    (P.Whole ∧ c = P.after ∧ c' = P.after') ∨
      ∃ t t' d d', P.Alike t t' ∧ P.Beside d d' ∧ c = ⟨t :: d.rest, P.after.finish⟩ ∧
        c' = ⟨t' :: d'.rest, P.after'.finish⟩ ∧ c.advance = d ∧ c'.advance = d' := by
  obtain ⟨own, own', halike, rfl, rfl⟩ := h
  cases halike with
  | nil =>
    obtain hwhole | hlt := hin
    · exact .inl ⟨hwhole, rfl, rfl⟩
    · exact absurd hlt (Nat.lt_irrefl _)
  | cons halike hrest => exact .inr ⟨_, _, _, _, halike, ⟨_, _, hrest, rfl, rfl⟩, rfl, rfl, rfl, rfl⟩

/-- Inside, the tokens at the cursors are alike. -/
theorem Beside.current (h : P.Beside c c') (hin : P.Inside c) : P.Alike c.current c'.current := by
  obtain ⟨hwhole, rfl, rfl⟩ | ⟨t, t', d, d', halike, -, rfl, rfl, -, -⟩ := h.cases hin
  · have hfinish := hwhole.alike
    simpa [Cursor.current, Cursor.peek, hwhole.1, hwhole.2.1] using hfinish
  · exact halike

/-- The tokens at the cursors are of kinds that are near. -/
theorem Beside.near (h : P.Beside c c') : c.current.kind.Near c'.current.kind := by
  obtain ⟨own, own', halike, rfl, rfl⟩ := h
  cases halike with
  | nil => exact P.heads
  | cons halike _ => exact .inl halike.kind

/-- Where the first text ends, both cursors are at blank tokens. -/
theorem Beside.blank (h : P.Beside c c') (hrest : c.rest = []) :
    c.current.kind.isBlank ∧ c'.current.kind.isBlank := by
  have hend : c.current.kind = .endOfInput := by
    simp [Cursor.current, Cursor.peek, hrest, Token.finish, Token.kind, Lexeme.kind]
  obtain heq | hblank := h.near
  · rw [← heq, hend]
    exact ⟨rfl, rfl⟩
  · exact hblank

/-- Inside, reading a token leaves the cursors beside each other. -/
theorem Beside.advance (h : P.Beside c c') (hin : P.Inside c) : P.Beside c.advance c'.advance := by
  obtain ⟨hwhole, rfl, rfl⟩ | ⟨t, t', d, d', -, hbeside, -, -, rfl, rfl⟩ := h.cases hin
  · refine ⟨[], [], .nil, ?_, ?_⟩ <;> simp [Cursor.advance, hwhole.1, hwhole.2.1]
  · exact hbeside

/-- Inside, the tokens after the ones at the cursors are of kinds that are near. -/
theorem Beside.next_near (h : P.Beside c c') (hin : P.Inside c) : (c.peek 1).kind.Near (c'.peek 1).kind := by
  have hpeek : ∀ c : Cursor, c.peek 1 = c.advance.current := by
    intro c
    simp [Cursor.peek, Cursor.current, Cursor.advance, List.getElem?_tail]
  rw [hpeek, hpeek]
  exact (h.advance hin).near

/-- Skipping tokens leaves the cursors beside each other, if it ends inside. -/
theorem Beside.skipWhile {skip : Kind → Bool} (h : P.Beside c c') (hin : P.Inside (c.skipWhile skip)) :
    P.Beside (c.skipWhile skip) (c'.skipWhile skip) := by
  obtain ⟨own, own', halike, rfl, rfl⟩ := h
  induction halike with
  | nil =>
    obtain hwhole | hlt := hin
    · refine ⟨[], [], .nil, ?_, ?_⟩ <;> simp [Cursor.skipWhile, hwhole.1, hwhole.2.1]
    · exact absurd hlt (Nat.not_lt.2 ((List.dropWhile_suffix _).length_le))
  | @cons t t' own own' ht hrest ih =>
    have hkind := ht.kind
    cases hskip : skip t.kind with
    | true =>
      have hskip' : skip t'.kind = true := hkind ▸ hskip
      simp only [Cursor.skipWhile, List.cons_append, List.dropWhile_cons, hskip, hskip', ↓reduceIte] at hin ih ⊢
      exact ih hin
    | false =>
      have hskip' : skip t'.kind = false := hkind ▸ hskip
      refine ⟨t :: own, t' :: own', .cons ht hrest, ?_, ?_⟩ <;>
        simp [Cursor.skipWhile, hskip, hskip']

end Cursors

/-! ## Sequences -/

section Rules

variable {k : Mode} {α β γ δ : Type} {R : α → β → Prop} {S : γ → δ → Prop} {p : Parser α} {q : Parser β}
  {f : α → Parser γ} {g : β → Parser δ} {c c' : Cursor}

/-- A result is beside a result that is related. -/
theorem Outcome.of_ok {a : α} {r' : Except Failure β} (h : P.Outcome R (.ok a) r') : ∃ b, r' = .ok b ∧ R a b := by
  cases h with
  | ok hR => exact ⟨_, rfl, hR⟩

/-- A failure is beside a failure that looks the same, whatever the results would have been. -/
theorem Outcome.of_error {e : Failure} {r' : Except Failure β} (h : P.Outcome R (.error e) r') :
    ∃ e', r' = .error e' ∧ ∀ {γ δ : Type} (S : γ → δ → Prop), P.Outcome S (.error e) (.error e') := by
  cases h with
  | grammar hcause hplace => exact ⟨_, rfl, fun _ => .grammar hcause hplace⟩
  | conversion e => exact ⟨_, rfl, fun _ => .conversion e⟩

/-- A result that is at hand. -/
theorem Sim.pure {a : α} {b : β} (h : P.Beside c c') (hR : R a b) : P.Sim k R (pure a) (pure b) c c' :=
  fun _ => ⟨.ok hR, h⟩

/-- A run that is covered starts inside, if it reads a token or is compared within. -/
theorem Sim.of_inside (hc : k = .ending → Parser.Consumes p c) (h : P.Inside c → P.Sim k R p q c c') :
    P.Sim k R p q c c' := by
  intro hcovers
  refine h ?_ hcovers
  obtain hin | ⟨hk, hafter, a, ha⟩ := hcovers
  · exact hin.of_reaches (p.forward c)
  · exact .of_lt hafter (hc hk a (p c).2 (Prod.ext ha rfl))

/-- A sequence whose first part is compared in the mode `j`. What follows knows where the first part stopped. -/
theorem Sim.bind_mode {j : Mode} (hp : P.Sim j R p q c c')
    (hj : k = .ending → j = .ending ∨ ∀ a d, Parser.Consumes (f a) d)
    (hf : ∀ a b d d', p c = (.ok a, d) → R a b → P.Beside d d' → P.Sim k S (f a) (g b) d d') :
    P.Sim k S (p >>= f) (q >>= g) c c' := by
  intro hcovers
  change P.Covers k (Parser.continueWith f (p c)) at hcovers
  show P.Outcome S (Parser.continueWith f (p c)).1 (Parser.continueWith g (q c')).1 ∧
    P.Beside (Parser.continueWith f (p c)).2 (Parser.continueWith g (q c')).2
  unfold Sim at hp
  rcases hpc : p c with ⟨e | a, d⟩
  · rw [hpc] at hcovers hp
    have hin : P.Inside d := by
      obtain hin | ⟨-, -, a, ha⟩ := hcovers
      · exact hin
      · cases ha
    obtain ⟨houtcome, hbeside⟩ := hp (.inl hin)
    rcases hqc : q c' with ⟨r', d'⟩
    rw [hqc] at houtcome hbeside
    obtain ⟨e', rfl, hfail⟩ := houtcome.of_error
    exact ⟨hfail S, hbeside⟩
  · rw [hpc] at hcovers hp
    have hfirst : P.Covers j (Except.ok a, d) := by
      obtain hin | ⟨hk, hafter, b, hb⟩ := hcovers
      · exact .inl (hin.of_reaches ((f a).forward d))
      · obtain rfl | hconsumes := hj hk
        · exact .inr ⟨rfl, hafter, a, rfl⟩
        · exact .inl (.of_lt hafter (hconsumes a d b (f a d).2 (Prod.ext hb rfl)))
    obtain ⟨houtcome, hbeside⟩ := hp hfirst
    rcases hqc : q c' with ⟨r', d'⟩
    rw [hqc] at houtcome hbeside
    obtain ⟨b, rfl, hR⟩ := houtcome.of_ok
    exact hf a b d d' hpc hR hbeside hcovers

/-- A sequence; what follows knows where the first part stopped. -/
theorem Sim.bind_run (hp : P.Sim k R p q c c')
    (hf : ∀ a b d d', p c = (.ok a, d) → R a b → P.Beside d d' → P.Sim k S (f a) (g b) d d') :
    P.Sim k S (p >>= f) (q >>= g) c c' :=
  hp.bind_mode (fun hk => .inl hk) hf

/-- A sequence. -/
theorem Sim.bind (hp : P.Sim k R p q c c') (hf : ∀ a b d d', R a b → P.Beside d d' → P.Sim k S (f a) (g b) d d') :
    P.Sim k S (p >>= f) (q >>= g) c c' :=
  hp.bind_run fun a b d d' _ => hf a b d d'

/-- A sequence that ends with a token is compared in both modes, whatever stands in front of the token. -/
theorem Sim.bind_of_consumes (hp : P.Sim .within R p q c c') (hconsumes : ∀ a d, Parser.Consumes (f a) d)
    (hf : ∀ a b d d', R a b → P.Beside d d' → P.Sim k S (f a) (g b) d d') : P.Sim k S (p >>= f) (q >>= g) c c' :=
  hp.bind_mode (fun _ => .inr hconsumes) fun a b d d' _ => hf a b d d'

/-- Results that are rewritten. -/
theorem Sim.map {f : α → γ} {g : β → δ} (hp : P.Sim k R p q c c') (hf : ∀ a b, R a b → S (f a) (g b)) :
    P.Sim k S (f <$> p) (g <$> q) c c' :=
  hp.bind fun a b _ _ hR h => .pure h (hf a b hR)

/-- A choice by a test that comes out the same. -/
theorem Sim.ite {b : Bool} {p₁ p₂ : Parser α} {q₁ q₂ : Parser β} (htrue : b = true → P.Sim k R p₁ q₁ c c')
    (hfalse : b = false → P.Sim k R p₂ q₂ c c') :
    P.Sim k R (if b then p₁ else p₂) (if b then q₁ else q₂) c c' := by
  cases b with
  | true => exact htrue rfl
  | false => exact hfalse rfl

/-- A production that is tried, and what follows its failure. -/
theorem Sim.tryCatch {q : Parser α} {R : α → α → Prop} {f : Failure → Parser α} (hp : P.Sim .within R p q c c')
    (hgrammar : ∀ e e' d d', P.Beside d d' → P.Sim .within R (f (.grammar e)) (f (.grammar e')) d d')
    (hconversion : ∀ e d d', P.Beside d d' → P.Sim .within R (f (.conversion e)) (f (.conversion e)) d d') :
    P.Sim .within R (tryCatch p f) (tryCatch q f) c c' := by
  rintro (hin | ⟨hk, -⟩)
  case inr => cases hk
  change P.Inside (Parser.recoverWith f (p c)).2 at hin
  show P.Outcome R (Parser.recoverWith f (p c)).1 (Parser.recoverWith f (q c')).1 ∧
    P.Beside (Parser.recoverWith f (p c)).2 (Parser.recoverWith f (q c')).2
  obtain ⟨houtcome, hbeside⟩ := hp (.inl (hin.of_reaches (Parser.reaches_recoverWith f _)))
  rcases hpc : p c with ⟨e | a, d⟩ <;> rcases hqc : q c' with ⟨e' | b, d'⟩ <;>
    rw [hpc, hqc] at houtcome hbeside <;> rw [hpc] at hin <;> cases houtcome
  · exact hgrammar _ _ d d' hbeside (.inl hin)
  · exact hconversion _ d d' hbeside (.inl hin)
  · next hR => exact ⟨.ok hR, hbeside⟩

/-- A production that starts with a look at the cursor, inside. -/
theorem Sim.look_inside {f : Token → Parser γ} {g : Token → Parser δ} (h : P.Beside c c') (hin : P.Inside c)
    (hf : P.Alike c.current c'.current → P.Sim k S (f c.current) (g c'.current) c c') :
    P.Sim k S (Parser.current >>= f) (Parser.current >>= g) c c' :=
  hf (h.current hin)

/-- A production that starts with a look at the cursor. -/
theorem Sim.look {f : Token → Parser γ} {g : Token → Parser δ} (h : P.Beside c c')
    (hc : k = .ending → Parser.Consumes (Parser.current >>= f) c)
    (hf : P.Inside c → P.Alike c.current c'.current → P.Sim k S (f c.current) (g c'.current) c c') :
    P.Sim k S (Parser.current >>= f) (Parser.current >>= g) c c' :=
  .of_inside hc fun hin => .look_inside h hin (hf hin)

/-- A production within that starts with a look at the cursor. -/
theorem Sim.look_within {f : Token → Parser γ} {g : Token → Parser δ} (h : P.Beside c c')
    (hf : P.Inside c → P.Alike c.current c'.current → P.Sim .within S (f c.current) (g c'.current) c c') :
    P.Sim .within S (Parser.current >>= f) (Parser.current >>= g) c c' :=
  .look h nofun hf

end Rules

/-! ## Nodes that look the same -/

/-- Lists of nodes look the same when their nodes do. -/
theorem Same.map_eq {α : Type} {view : View → α → α} {as bs : List α} (h : List.Forall₂ (P.Same view) as bs) :
    as.map (view P.view) = bs.map (view P.view') := by
  induction h with
  | nil => rfl
  | cons hab _ ih => rw [List.map_cons, List.map_cons, hab, ih]

/-- Nodes that may be missing look the same when both are missing, or both are there and look the same. -/
theorem Same.rel {α : Type} {view : View → α → α} {a b : Option α} (h : P.Same (fun v => Option.map (view v)) a b) :
    Option.Rel (P.Same view) a b := by
  match a, b, h with
  | none, none, _ => exact .none
  | some _, some _, h => exact .some (Option.some.inj h)

end Pairing

end MediaLanguage

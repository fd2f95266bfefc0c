import MediaLanguage.Proofs.Parser.Braces
import MediaLanguage.Proofs.Parser.Derivation

/-!
# Where a skipped body ends

A body in braces that is not read ends at the first closing brace that takes the depth of braces back to zero.
`Balanced` says this of the tokens in front of that brace by counting: they open as many braces as they close, and no
prefix of them closes more than it opens.

* `afterBraces_append`: tokens that close only what is open change the depth, and nothing else.
* `run_skipBraces_ok`, `run_skipBraces_error`: a body is skipped exactly if its brace is there, and then reading goes on
  right behind it; otherwise the brace is missed at the end of the text.
-/

namespace MediaLanguage

/-- The braces among the tokens belong together: as many are closed as are opened, and none before it is opened. -/
structure Balanced (ts : List Token) : Prop where
  eq : opens ts = closes ts
  le : ∀ us, us <+: ts → closes us ≤ opens us

/-- Paired tokens without a surplus are balanced. -/
theorem Paired.balanced {ts : List Token} (h : Paired false 0 ts) : Balanced ts where
  eq := h.opens_eq
  le _ hus := h.closes_le_opens hus

/-- Among the tokens behind an opening brace, `last` is the first closing brace that takes the depth back to zero:
`body` stands in front of it, and `after` behind it. -/
structure ClosesBody (ts body : List Token) (last : Token) (after : List Token) : Prop where
  eq : ts = body ++ last :: after
  balanced : Balanced body
  last : last.kind = .mark .closeBrace

namespace Parser

open Pairing

variable {c d : Cursor} {first : Token} {ts : List Token}

/-- Tokens that close only braces that are open change the depth, and nothing else. -/
theorem afterBraces_append {n : Nat} {own : List Token} (h : ∀ us, us <+: own → closes us ≤ opens us + n)
    (rest : List Token) :
    afterBraces (n + 1) (own ++ rest) = afterBraces (n + opens own - closes own + 1) rest := by
  induction own generalizing n with
  | nil => simp
  | cons t own ih =>
    have htail : ∀ us, us <+: own → closes (t :: us) ≤ opens (t :: us) + n :=
      fun us hus => h _ ((List.prefix_cons_inj t).2 hus)
    simp only [opens_cons, closes_cons] at htail ⊢
    rw [List.cons_append, afterBraces]
    split
    · next hopen =>
      simp only [hopen, ↓reduceIte, reduceCtorEq, Kind.mark.injEq] at htail ⊢
      rw [ih fun us hus => by have := htail us hus; omega]
      congr 1
      omega
    · next hclose =>
      simp only [hclose, ↓reduceIte, reduceCtorEq, Kind.mark.injEq] at htail ⊢
      -- The brace itself is a prefix, so it closes one that is open.
      have hpos := htail [] List.nil_prefix
      obtain ⟨m, rfl⟩ : ∃ m, n = m + 1 := ⟨n - 1, by simp at hpos; omega⟩
      rw [ih fun us hus => by have := htail us hus; omega]
      congr 1
      omega
    · next hopen hclose =>
      rw [if_neg hopen, if_neg hclose]
      rw [if_neg hopen, if_neg hclose] at htail
      exact ih htail

/-- Balanced tokens leave the depth as it is. -/
theorem afterBraces_balanced {body : List Token} (h : Balanced body) (n : Nat) (rest : List Token) :
    afterBraces (n + 1) (body ++ rest) = afterBraces (n + 1) rest := by
  rw [afterBraces_append fun us hus => Nat.le_add_right_of_le (h.le us hus), ← h.eq, Nat.add_sub_cancel]

/-- What follows a body stands behind the first closing brace that takes the depth back to zero. -/
theorem afterBraces_one_iff {rest : List Token} :
    afterBraces 1 ts = some rest ↔ ∃ body last, ClosesBody ts body last rest := by
  constructor
  · intro h
    obtain ⟨body, last, hbody, hlast, hts⟩ := exists_paired_of_afterBraces h
    exact ⟨body, last, by simpa using hts, hbody.balanced, hlast⟩
  · rintro ⟨body, last, rfl, hbody, hlast⟩
    rw [afterBraces_balanced hbody 0, afterBraces]
    simp only [hlast, afterBraces]

/-- A body behind an opening brace. -/
theorem run_skipBraces (hrest : c.rest = first :: ts) (hfirst : first.kind = .mark .openBrace) :
    skipBraces c = skipBody ⟨ts, c.finish⟩ := by
  have hc : c = Cursor.prepend ⟨ts, c.finish⟩ [first] := by
    obtain ⟨_, finish⟩ := c
    exact congrArg (Cursor.mk · finish) hrest
  have hmark : mark .openBrace c = (.ok first, ⟨ts, c.finish⟩) := run_mark_ok.2 ⟨hfirst, hc⟩
  show continueWith _ (mark .openBrace c) = _
  rw [hmark]
  rfl

/-- A body is skipped exactly if a closing brace takes the depth back to zero, and then reading goes on right behind the
first that does. -/
theorem run_skipBraces_ok (hrest : c.rest = first :: ts) (hfirst : first.kind = .mark .openBrace) :
    skipBraces c = (.ok (), d) ↔ ∃ body last after, ClosesBody ts body last after ∧ d = ⟨after, c.finish⟩ := by
  rw [run_skipBraces hrest hfirst]
  cases hafter : afterBraces 1 ts with
  | some rest =>
    rw [run_skipBody_some (c := ⟨ts, c.finish⟩) hafter]
    constructor
    · rintro ⟨⟩
      obtain ⟨body, last, hcloses⟩ := afterBraces_one_iff.1 hafter
      exact ⟨body, last, rest, hcloses, rfl⟩
    · rintro ⟨body, last, after, hcloses, rfl⟩
      rw [afterBraces_one_iff.2 ⟨body, last, hcloses⟩] at hafter
      cases hafter
      rfl
  | none =>
    rw [run_skipBody_none (c := ⟨ts, c.finish⟩) hafter]
    constructor
    · rintro ⟨⟩
    · rintro ⟨body, last, after, hcloses, -⟩
      rw [afterBraces_one_iff.2 ⟨body, last, hcloses⟩] at hafter
      cases hafter

/-- A body fails exactly if no closing brace takes the depth back to zero, and then the brace is missed at the end. -/
theorem run_skipBraces_error {e : Failure} (hrest : c.rest = first :: ts) (hfirst : first.kind = .mark .openBrace) :
    skipBraces c = (.error e, d) ↔
      (¬∃ body last after, ClosesBody ts body last after) ∧
        e = .grammar ⟨.missingDelimiter "\x7d", c.finish⟩ ∧ d = ⟨[], c.finish⟩ := by
  rw [run_skipBraces hrest hfirst]
  cases hafter : afterBraces 1 ts with
  | some rest =>
    rw [run_skipBody_some (c := ⟨ts, c.finish⟩) hafter]
    constructor
    · rintro ⟨⟩
    · rintro ⟨hnone, -⟩
      obtain ⟨body, last, hcloses⟩ := afterBraces_one_iff.1 hafter
      exact absurd ⟨body, last, rest, hcloses⟩ hnone
  | none =>
    rw [run_skipBody_none (c := ⟨ts, c.finish⟩) hafter]
    constructor
    · rintro ⟨⟩
      refine ⟨?_, rfl, rfl⟩
      rintro ⟨body, last, after, hcloses⟩
      rw [afterBraces_one_iff.2 ⟨body, last, hcloses⟩] at hafter
      cases hafter
    · rintro ⟨-, rfl, rfl⟩
      rfl

end Parser

end MediaLanguage

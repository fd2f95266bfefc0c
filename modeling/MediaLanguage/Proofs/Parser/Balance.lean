import MediaLanguage.Proofs.Characters
import MediaLanguage.Proofs.Parser.Provenance

/-!
# Balanced braces

The braces of a text that writes a program never close more than they have opened. They are balanced, unless a value
among the characteristics was passed over: its opening braces are not counted, so that the text holds that many more of
them than of closing ones.

* `Paired.exists_passedOver`: a surplus of opening braces stands in values that are passed over.
* `parse_paired`: the braces of a text that writes a program.
* `not_parse_balanced`: a text that writes a program, with an opening brace that nothing closes.
-/

namespace MediaLanguage

/-- Somewhere among the tokens stands a sign, and behind it opening braces where no value starts, in front of the next
semicolon or closing brace. -/
def PassesOverBraces (ts : List Token) : Prop :=
  ∃ before sign own after, ts = before ++ sign :: own ++ after ∧ sign.kind = .mark .assign ∧ startsValue own = false ∧
    (∀ t ∈ own, Parser.endsCharacteristic t.kind = false) ∧ 0 < opens own

/-- Opening braces that are passed over among some tokens are passed over among more. -/
theorem PassesOverBraces.enclose {ts : List Token} (h : PassesOverBraces ts) (us vs : List Token) :
    PassesOverBraces (us ++ ts ++ vs) := by
  obtain ⟨before, sign, own, after, rfl, hsign, hvalue, hends, hopens⟩ := h
  exact ⟨us ++ before, sign, own, after ++ vs, by simp, hsign, hvalue, hends, hopens⟩

/-- A surplus of opening braces stands in values that are passed over. -/
theorem Paired.exists_passedOver {loose : Bool} {n : Nat} {ts : List Token} (h : Paired loose n ts) (hn : 0 < n) :
    PassesOverBraces ts := by
  induction h with
  | nil => cases hn
  | token => cases hn
  | @append loose m n ts us _ _ ih ih' =>
    by_cases hm : 0 < m
    · exact (ih hm).enclose [] us
    · have hback := (ih' (by omega)).enclose ts []
      rwa [List.append_nil] at hback
  | @braces _ _ first last ts _ _ _ ih => exact (ih hn).enclose [first] [last]
  | @characteristics _ _ word first last ts _ _ _ _ ih => exact (ih hn).enclose [word, first] [last]
  | @passedOver sign ts hsign hvalue hends => exact ⟨[], sign, ts, [], by simp, hsign, hvalue, hends, hn⟩

/-- The braces of a text that writes a program are paired, but for those in values that are passed over. -/
theorem parse_paired {source : String} {s : TokenStream} {p : Ast.Program} (hs : tokenize source = .ok s)
    (hp : parse source = .ok p) :
    (∀ us, us <+: s.tokens → closes us ≤ opens us) ∧
      ∃ n, Paired false n s.tokens ∧ opens s.tokens = closes s.tokens + n ∧
        (opens s.tokens = closes s.tokens ∨ PassesOverBraces s.tokens) := by
  obtain ⟨t, ht, herrors, hstopped, -⟩ := parse_eq_ok_iff.1 hp
  obtain rfl : s = t := Except.ok.inj (hs.symm.trans ht)
  obtain ⟨n, hpaired⟩ := s.sound_parse.matched hstopped herrors
  have hopens := hpaired.opens_eq
  refine ⟨fun us hus => hpaired.closes_le_opens hus, n, hpaired, hopens, ?_⟩
  obtain rfl | hn := Nat.eq_zero_or_pos n
  · exact .inl hopens
  · exact .inr (hpaired.exists_passedOver hn)

/-- A template with a characteristic whose value cannot be read, and is passed over up to the semicolon. -/
def unbalancedSource : String :=
  "template \"T\" \x7b characteristics \x7b a = [ \x7b ; \x7d \x7d"

/-- The source has three opening braces and two closing ones. -/
theorem tokenize_unbalancedSource :
    ∃ s, tokenize unbalancedSource = .ok s ∧ opens s.tokens = 3 ∧ closes s.tokens = 2 := by
  have hcounts :
      (tokenize unbalancedSource).toOption.map (fun s => (opens s.tokens, closes s.tokens)) = some (3, 2) := by
    have hchars : unbalancedSource.toList = _ := String.toList_ofList
    rw [tokenize_of_toList hchars]
    decide +kernel
  cases hs : tokenize unbalancedSource with
  | error e =>
    rw [hs] at hcounts
    cases hcounts
  | ok s =>
    rw [hs] at hcounts
    refine ⟨s, rfl, ?_⟩
    simpa [Except.toOption] using hcounts

/-- The source writes a template without characteristics. -/
theorem parse_unbalancedSource :
    parse unbalancedSource = .ok ⟨[.template ⟨"T", "OUTLET", [.characteristics ⟨[], ⟨1, 16, 15⟩⟩], ⟨1, 1, 0⟩⟩]⟩ := by
  cbv

/-- The source has an opening brace that is passed over, and closes no brace that is not open. -/
theorem parse_paired_unbalancedSource :
    ∃ s p, tokenize unbalancedSource = .ok s ∧ parse unbalancedSource = .ok p ∧
      (∀ us, us <+: s.tokens → closes us ≤ opens us) ∧ PassesOverBraces s.tokens := by
  obtain ⟨s, hs, hopens, hcloses⟩ := tokenize_unbalancedSource
  obtain ⟨hle, -, -, -, heq | hpassed⟩ := parse_paired hs parse_unbalancedSource
  · omega
  · exact ⟨s, _, hs, parse_unbalancedSource, hle, hpassed⟩

/-- Not every text that writes a program has as many closing braces as opening ones. -/
theorem not_parse_balanced :
    ¬∀ source s p, tokenize source = .ok s → parse source = .ok p →
      (∀ us, us <+: s.tokens → closes us ≤ opens us) ∧ opens s.tokens = closes s.tokens := by
  intro hbalanced
  obtain ⟨s, hs, hopens, hcloses⟩ := tokenize_unbalancedSource
  obtain ⟨-, heq⟩ := hbalanced _ s _ hs parse_unbalancedSource
  omega

end MediaLanguage

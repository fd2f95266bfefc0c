import MediaLanguage.Parser.Block

/-!
# Braces that belong together

`Paired` describes the tokens that a production of the grammar may read: every brace stands in a pair, and pairs nest.
There is one exception. Among the characteristics a value that cannot be read is passed over, up to a semicolon or a
closing brace, and the opening braces in it are left without a partner. `Paired` counts them, and says where they are.

* `Paired.opens_eq`: the tokens hold that many more opening braces than closing ones.
* `Paired.closes_le_opens`: no prefix of the tokens closes a brace that it does not open.
* `exists_paired_of_afterBraces`: a body that is skipped brace by brace is paired, without exception.
-/

namespace MediaLanguage

/-- Whether the kind is a brace. -/
def Kind.isBrace (k : Kind) : Bool :=
  k == .mark .openBrace || k == .mark .closeBrace

/-- How many opening braces there are among the tokens. -/
def opens (ts : List Token) : Nat :=
  ts.countP fun t => t.kind == .mark .openBrace

/-- How many closing braces there are among the tokens. -/
def closes (ts : List Token) : Nat :=
  ts.countP fun t => t.kind == .mark .closeBrace

section Counts

variable {t : Token} (ts us : List Token)

@[simp] theorem opens_nil : opens [] = 0 := rfl

@[simp] theorem closes_nil : closes [] = 0 := rfl

@[simp] theorem opens_append : opens (ts ++ us) = opens ts + opens us :=
  List.countP_append

@[simp] theorem closes_append : closes (ts ++ us) = closes ts + closes us :=
  List.countP_append

@[simp] theorem opens_cons : opens (t :: ts) = opens ts + if t.kind = .mark .openBrace then 1 else 0 := by
  simp [opens, List.countP_cons]

@[simp] theorem closes_cons : closes (t :: ts) = closes ts + if t.kind = .mark .closeBrace then 1 else 0 := by
  simp [closes, List.countP_cons]

/-- A kind that is no brace is neither of them. -/
theorem Kind.ne_of_not_isBrace {k : Kind} (h : k.isBrace = false) :
    k ≠ .mark .openBrace ∧ k ≠ .mark .closeBrace := by
  simpa [isBrace] using h

/-- Tokens of which none closes a brace. -/
theorem closes_eq_zero (h : ∀ t ∈ ts, t.kind ≠ .mark .closeBrace) : closes ts = 0 := by
  simpa [closes, List.countP_eq_zero] using h

end Counts

/-- Whether the tokens begin with a value that can be read, or with an opening brace. -/
def startsValue : List Token → Bool
  | [] => false
  | t :: ts =>
    match t.kind with
    | .string | .number | .boolean | .mark .openBrace => true
    | .mark .dollar => ts.head?.any fun u => u.kind == .identifier || u.kind.isKeyword
    | _ => false

/-- The tokens are paired, but for `surplus` opening braces. Where `loose` is set, which is among characteristics, the
tokens may hold values that are passed over. -/
inductive Paired : (loose : Bool) → (surplus : Nat) → List Token → Prop
  | nil {loose : Bool} : Paired loose 0 []
  | token {loose : Bool} {t : Token} (h : t.kind.isBrace = false) : Paired loose 0 [t]
  | append {loose : Bool} {m n : Nat} {ts us : List Token} (hts : Paired loose m ts) (hus : Paired loose n us) :
    Paired loose (m + n) (ts ++ us)
  | braces {loose : Bool} {n : Nat} {first last : Token} {ts : List Token} (hfirst : first.kind = .mark .openBrace)
    (hlast : last.kind = .mark .closeBrace) (hts : Paired false n ts) : Paired loose n (first :: ts ++ [last])
  /-- A block of characteristics. -/
  | characteristics {loose : Bool} {n : Nat} {word first last : Token} {ts : List Token}
    (hword : word.kind = .keyword .characteristics) (hfirst : first.kind = .mark .openBrace)
    (hlast : last.kind = .mark .closeBrace) (hts : Paired true n ts) :
    Paired loose n (word :: first :: ts ++ [last])
  /-- A sign with a value that is passed over. -/
  | passedOver {sign : Token} {ts : List Token} (hsign : sign.kind = .mark .assign) (hvalue : startsValue ts = false)
    (hends : ∀ t ∈ ts, Parser.endsCharacteristic t.kind = false) : Paired true (opens ts) (sign :: ts)

namespace Paired

variable {loose : Bool} {m n : Nat} {ts us : List Token}

/-- A token that is no brace in front of paired tokens. -/
theorem cons {t : Token} (ht : t.kind.isBrace = false) (hts : Paired loose n ts) : Paired loose n (t :: ts) := by
  have hfirst : Paired loose 0 [t] := .token ht
  rw [← Nat.zero_add n]
  exact hfirst.append hts

/-- Tokens without braces are paired. -/
theorem of_forall_not_isBrace (h : ∀ t ∈ ts, t.kind.isBrace = false) : Paired loose 0 ts := by
  induction ts with
  | nil => exact .nil
  | cons t ts ih =>
    obtain ⟨ht, hts⟩ := List.forall_mem_cons.1 h
    exact cons ht (ih hts)

/-- What is passed over closes no brace. -/
theorem closes_eq_zero_of_passedOver (h : ∀ t ∈ ts, Parser.endsCharacteristic t.kind = false) : closes ts = 0 := by
  apply closes_eq_zero
  intro t ht hclose
  have hend := h t ht
  rw [hclose] at hend
  cases hend

/-- Paired tokens hold the surplus more opening braces than closing ones. -/
theorem opens_eq (h : Paired loose n ts) : opens ts = closes ts + n := by
  induction h with
  | nil => rfl
  | token ht =>
    obtain ⟨hopen, hclose⟩ := Kind.ne_of_not_isBrace ht
    simp [hopen, hclose]
  | append _ _ ih ih' =>
    rw [opens_append, closes_append]
    omega
  | braces hfirst hlast _ ih =>
    simp [hfirst, hlast]
    omega
  | characteristics hword hfirst hlast _ ih =>
    simp [hword, hfirst, hlast]
    omega
  | passedOver hsign _ hends =>
    simp [hsign, closes_eq_zero_of_passedOver hends]

/-- A prefix of tokens between two others: nothing, the first with a prefix of the tokens, or all of them. -/
theorem prefix_enclosed {first last : Token} (h : us <+: first :: ts ++ [last]) :
    us = [] ∨ (∃ vs, vs <+: ts ∧ us = first :: vs) ∨ us = first :: ts ++ [last] := by
  rw [List.prefix_concat_iff, List.prefix_cons_iff] at h
  obtain hall | hnil | ⟨vs, rfl, hvs⟩ := h
  · exact .inr (.inr hall)
  · exact .inl hnil
  · exact .inr (.inl ⟨vs, hvs, rfl⟩)

/-- No prefix of paired tokens closes a brace that it does not open. -/
theorem closes_le_opens (h : Paired loose n ts) (hus : us <+: ts) : closes us ≤ opens us := by
  induction h generalizing us with
  | nil =>
    rw [List.prefix_nil.1 hus]
    exact Nat.le_refl 0
  | token ht =>
    obtain ⟨-, hclose⟩ := Kind.ne_of_not_isBrace ht
    have hzero : closes us = 0 := by
      apply closes_eq_zero
      intro t ht
      rw [List.mem_singleton.1 (hus.subset ht)]
      exact hclose
    omega
  | append hts _ ih ih' =>
    obtain hfirst | ⟨vs, rfl⟩ := List.prefix_or_prefix_of_prefix hus (List.prefix_append _ _)
    · exact ih hfirst
    · have := ih' ((List.prefix_append_right_inj _).1 hus)
      have := hts.opens_eq
      rw [opens_append, closes_append]
      omega
  | braces hfirst hlast hts ih =>
    obtain rfl | ⟨vs, hvs, rfl⟩ | rfl := prefix_enclosed hus
    · exact Nat.le_refl 0
    · have := ih hvs
      simp [hfirst]
      omega
    · have hpaired : Paired false _ _ := .braces hfirst hlast hts
      have := hpaired.opens_eq
      omega
  | characteristics hword hfirst hlast hts ih =>
    obtain rfl | ⟨vs, rfl, hvs⟩ := List.prefix_cons_iff.1 hus
    · exact Nat.le_refl 0
    obtain rfl | ⟨ws, hws, rfl⟩ | rfl := prefix_enclosed hvs
    · simp [hword]
    · have := ih hws
      simp [hword, hfirst]
      omega
    · have hpaired : Paired false _ _ := .characteristics hword hfirst hlast hts
      have := hpaired.opens_eq
      simp only [List.cons_append] at this ⊢
      omega
  | passedOver hsign _ hends =>
    have hzero : closes us = 0 := by
      have hall := closes_eq_zero_of_passedOver hends
      obtain ⟨vs, hvs⟩ := hus
      have hsum := congrArg closes hvs
      simp [hsign] at hsum
      omega
    omega

end Paired

/-! ## Bodies that are skipped -/

namespace Parser

/-- The tokens close `depth` open braces, with paired tokens in front of each of them. -/
def ClosesAll : Nat → List Token → Prop
  | 0, ts => ts = []
  | depth + 1, ts => ∃ body last rest, Paired false 0 body ∧ last.kind = .mark .closeBrace ∧
    ts = body ++ last :: rest ∧ ClosesAll depth rest

/-- The tokens in front of the brace that closes the last open one close all of them. -/
theorem exists_closesAll_of_afterBraces {depth : Nat} {ts rest : List Token}
    (h : afterBraces depth ts = some rest) : ∃ own, ts = own ++ rest ∧ ClosesAll depth own := by
  fun_induction afterBraces depth ts with
  | case1 ts =>
    cases h
    exact ⟨[], rfl, rfl⟩
  | case2 => cases h
  | case3 depth t ts hopen ih =>
    obtain ⟨own, rfl, body, last, own', hbody, hlast, rfl, body', last', own'', hbody', hlast', rfl, hown⟩ := ih h
    refine ⟨t :: (body ++ last :: (body' ++ last' :: own'')), by simp,
      (t :: body ++ [last]) ++ body', last', own'', ?_, hlast', by simp, hown⟩
    exact (Paired.braces hopen hlast hbody).append hbody'
  | case4 depth t ts hclose ih =>
    obtain ⟨own, rfl, hown⟩ := ih h
    exact ⟨t :: own, rfl, [], t, own, .nil, hclose, rfl, hown⟩
  | case5 depth t ts hopen hclose ih =>
    obtain ⟨own, rfl, body, last, own', hbody, hlast, rfl, hown⟩ := ih h
    refine ⟨t :: (body ++ last :: own'), rfl, t :: body, last, own', .cons ?_ hbody, hlast, rfl, hown⟩
    simpa [Kind.isBrace] using And.intro hopen hclose

/-- A body that is skipped is paired, up to the brace that closes it. -/
theorem exists_paired_of_afterBraces {ts rest : List Token} (h : afterBraces 1 ts = some rest) :
    ∃ (body : List Token) (last : Token),
      Paired false 0 body ∧ last.kind = .mark .closeBrace ∧ ts = body ++ [last] ++ rest := by
  obtain ⟨own, rfl, body, last, own', hbody, hlast, rfl, rfl⟩ := exists_closesAll_of_afterBraces h
  exact ⟨body, last, hbody, hlast, by simp⟩

end Parser

end MediaLanguage

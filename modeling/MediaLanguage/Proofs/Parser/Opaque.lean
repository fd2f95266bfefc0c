import Mathlib
import MediaLanguage.Proofs.Characters
import MediaLanguage.Proofs.Parser.Descent
import MediaLanguage.Proofs.Parser.Skipping

/-!
# Bodies that are not read

The value of a characteristic that is an object, the body behind a string that is the value of one, and the body of a
mention of an outlet are skipped. A run over a text makes something of what `skipBraces` gives there, and of nothing
else in the body.

* `TokenStream.Factors`: a run over a text makes something of what a production gives at a place, and finds an error if
  the production fails there. The parts of a program pass this on to each other (`factors_statement`, `factors_member`,
  `factors_block`, `factors_characteristic`), down to a body that is skipped (`factors_skipBraces`).
* `opaque_bodies`: so any other tokens between the two braces give the same program, as long as their own braces are
  balanced.
-/

open MediaLanguage.Ast MediaLanguage.Parser

namespace MediaLanguage

/-! ## What a run makes of a place -/

/-- What a run over the statements makes of what it gets at the first of them. -/
def Parse.behind : Except Failure Statement × Cursor → Parse
  | (.ok s, d) => (fromCursor d).withStatement s
  | (.error (.grammar e), d) => (fromCursor d.synchronize).withError e
  | (.error (.conversion e), d) => ⟨[], [], some e, d⟩

/-- A run over the statements makes something of the first of them. -/
theorem Parse.fromCursor_eq_behind {c : Cursor} (h : (c.skipWhile isDivider).rest ≠ []) :
    fromCursor c = behind (statement (c.skipWhile isDivider)) := by
  rw [fromCursor_eq]
  dsimp only
  rw [if_neg (by simpa using h)]
  rcases statement (c.skipWhile isDivider) with ⟨(_ | _) | _, _⟩ <;> rfl

/-- A run over the statements from a cursor on makes something of every statement that it comes to, whatever stands
behind the first token of `b`; if the statement fails, the run finds an error. The induction is on the statements in
front. -/
theorem Parse.ComesTo.exists_make {b : Cursor} {ts us : List Token} (hus : us ≠ [])
    (h : ComesTo (b.prepend ts) (b.prepend us)) :
    ∃ make : Except Failure Statement × Cursor → Parse,
      (∀ d : Cursor, d.current = b.current → fromCursor (d.prepend ts) = make (statement (d.prepend us))) ∧
        ∀ e d, (make (.error e, d)).errors ≠ [] ∨ (make (.error e, d)).stopped ≠ none := by
  generalize hc : b.prepend ts = c at h
  generalize he : b.prepend us = e at h
  have hrest : ∀ (d : Cursor) {xs : List Token}, xs ≠ [] → (d.prepend xs).rest ≠ [] :=
    fun d _ hxs => List.append_ne_nil_of_left_ne_nil hxs d.rest
  induction h generalizing ts with
  | first =>
    subst hc
    refine ⟨behind, fun d _ => ?_, fun e d => ?_⟩
    · have hskip := Cursor.skipWhile_prepend_of (d := d) hus he.symm
      rw [fromCursor_eq_behind (hskip ▸ hrest d hus), hskip]
    · cases e with
      | grammar e => exact .inl (List.cons_ne_nil _ _)
      | conversion e => exact .inr (Option.some_ne_none e)
  | @later c d e node _ hrun hlater ih =>
    subst hc he
    obtain ⟨vs, hvs, rfl⟩ := hlater.reaches.exists_prepend_ne_nil hus
    obtain ⟨xs, hxs, hskip⟩ := (reaches_of_run hrun).exists_prepend_ne_nil hvs
    rw [hskip] at hrun
    obtain ⟨make, hmake, herror⟩ := ih rfl rfl
    refine ⟨fun r => (make r).withStatement node, fun d hd => ?_, herror⟩
    have hskip' := Cursor.skipWhile_prepend_of (d := d) hxs hskip
    rw [fromCursor_of_statement (hskip' ▸ hrest d hxs) (hskip' ▸ shortsighted_statement _ _ _ _ _ hvs hd hrun),
      hmake d hd]

namespace TokenStream

open Parse

variable {s : TokenStream} {b : Cursor} {α β : Type} {p : Parser α} {q : Parser β} {us vs : List Token}

/-- A run over the text makes something of what `q` gives in front of `us` and `b`, whatever stands from `b` on if it
starts with the same token; if `q` fails there, the run finds an error. -/
def Factors (s : TokenStream) (b : Cursor) (q : Parser β) (us : List Token) : Prop :=
  ∃ (before : List Token) (make : Except Failure β × Cursor → Parse), Cursor.ofStream s = b.prepend before ∧
    (∀ d : Cursor, d.current = b.current → fromCursor (d.prepend before) = make (q (d.prepend us))) ∧
      ∀ e d, (make (.error e, d)).errors ≠ [] ∨ (make (.error e, d)).stopped ≠ none

/-- A run that makes something of a production makes something of what the production comes to. -/
theorem Factors.descend (h : s.Factors b p us) (hq : Descends b.current p us q vs) : s.Factors b q vs := by
  obtain ⟨before, make, hstart, hmake, herror⟩ := h
  obtain ⟨next, hnext⟩ := hq
  refine ⟨before, fun r => make (continueWith next r), hstart, fun d hd => ?_, herror⟩
  rw [hmake d hd, hnext d hd]

/-- A run over the text makes something of every statement that it comes to. -/
theorem factors_statement (hus : us ≠ []) (h : s.StatementAt (b.prepend us)) : s.Factors b statement us := by
  obtain ⟨before, -, hstart⟩ := h.reaches.exists_prepend_ne_nil hus
  unfold StatementAt at h
  rw [hstart] at h
  obtain ⟨make, hmake, herror⟩ := h.exists_make hus
  exact ⟨before, make, hstart, hmake, herror⟩

/-- A run over the text makes something of every member of a family that it comes to. -/
theorem factors_member (hus : us ≠ []) (h : s.MemberAt (b.prepend us)) :
    s.Factors b (do return [← familyMember]) us := by
  obtain ⟨head, body, hhead, hstatement, hitems⟩ := h
  obtain ⟨vs, hvs, rfl⟩ := hitems.reaches.exists_prepend_ne_nil hus
  rw [Cursor.prepend_prepend] at hstatement
  have hne := List.append_ne_nil_of_right_ne_nil head hvs
  have hfamily := (factors_statement hne hstatement).descend
    ((descends_statement_family hhead).trans (descends_family hhead))
  exact hfamily.descend (.items GrammarBody.family.consumes shortsighted_familyMember hus hitems)

/-- A run over the text makes something of every block that it comes to. -/
theorem factors_block (hus : us ≠ []) (h : s.BlockAt (b.prepend us)) : s.Factors b (do return [← outletBlock]) us := by
  obtain ⟨head, body, hhead, hitems⟩ := h
  obtain ⟨vs, hvs, rfl⟩ := hitems.reaches.exists_prepend_ne_nil hus
  have hne := List.append_ne_nil_of_right_ne_nil head hvs
  rw [Cursor.prepend_prepend] at hhead
  have hblocks : s.Factors b (loop (itemRound .closeBrace isDivider (do return [← outletBlock]))) vs := by
    obtain ⟨htemplate, hstatement⟩ | ⟨houtlet, hmember⟩ := hhead
    · exact (factors_statement hne hstatement).descend
        ((descends_statement_template htemplate).trans (descends_template htemplate))
    · exact (factors_member hne hmember).descend
        ((descends_familyMember_outlet houtlet).trans (descends_outlet houtlet))
  exact hblocks.descend (.items GrammarBody.outletBody.consumes shortsighted_outletBlock hus hitems)

/-- A run over the text makes something of every item among characteristics that it comes to. -/
theorem factors_characteristic (hus : us ≠ []) (h : s.CharacteristicAt (b.prepend us)) :
    s.Factors b characteristicItem us := by
  obtain ⟨head, body, hhead, hblock, hitems⟩ := h
  obtain ⟨vs, hvs, rfl⟩ := hitems.reaches.exists_prepend_ne_nil hus
  rw [Cursor.prepend_prepend] at hblock
  have hne := List.append_ne_nil_of_right_ne_nil head hvs
  have hbody := (factors_block hne hblock).descend (descends_outletBlock hhead)
  exact hbody.descend (.items GrammarBody.characteristicsBlock.consumes shortsighted_characteristicItem hus hitems)

/-- A run over the text makes something of every body that it skips, and of nothing else in it. -/
theorem factors_skipBraces (h : s.OpaqueAt b) : s.Factors b skipBraces [] := by
  obtain ⟨hkind, ⟨head, hhead, hcharacteristic⟩ | ⟨head, hhead, hmember⟩⟩ := h
  · have hne : head ≠ [] := by cases hhead <;> exact List.cons_ne_nil _ _
    exact (factors_characteristic hne hcharacteristic).descend (descends_characteristicItem hhead hkind)
  · have hne : head ≠ [] := by cases hhead; exact List.cons_ne_nil _ _
    exact (factors_member hne hmember).descend (descends_familyMember_reference hhead hkind)

end TokenStream

namespace TokenStream.Factors

variable {s : TokenStream} {p : Program} {b d : Cursor} {β : Type} {q : Parser β} {before : List Token}

/-- The place stands behind some of the tokens. -/
theorem exists_before (h : s.Factors b q []) : ∃ before, Cursor.ofStream s = b.prepend before := by
  obtain ⟨before, -, hstart, -⟩ := h
  exact ⟨before, hstart⟩

/-- A run that makes something of a production writes no program if the production fails. -/
theorem succeeds (h : s.Factors b q []) (hp : s.parse.result [] = .ok p) : ∃ a d, q b = (.ok a, d) := by
  obtain ⟨before, make, hstart, hmake, herror⟩ := h
  obtain ⟨herrors, hstopped, -⟩ := Parse.result_eq_ok_iff.1 hp
  have hparse : s.parse = make (q b) := (congrArg Parse.fromCursor hstart).trans (hmake b rfl)
  rcases hrun : q b with ⟨e | a, d⟩
  · rw [hparse, hrun] at herrors hstopped
    obtain hne | hne := herror e d
    · exact absurd herrors hne
    · exact absurd hstopped hne
  · exact ⟨a, d, rfl⟩

/-- A run that makes something of a production makes the same of what gives the same. -/
theorem parse_eq (h : s.Factors b q []) (hbefore : Cursor.ofStream s = b.prepend before)
    (hd : d.current = b.current) (hq : q d = q b) : (mk (before ++ d.rest) d.finish).parse = s.parse := by
  obtain ⟨own, make, hstart, hmake, -⟩ := h
  obtain rfl : before = own := Cursor.prepend_inj.1 (hbefore.symm.trans hstart)
  have hparse : s.parse = make (q b) := (congrArg Parse.fromCursor hstart).trans (hmake b rfl)
  rw [hparse, ← hq]
  exact hmake d hd

end TokenStream.Factors

/-! ## Bodies -/

/-- **Bodies in braces that are not read are opaque.** From an opening brace on, everything is skipped up to the first
closing brace that takes the depth of braces back to zero, and that brace is missed at the end of the text if there is
none. So where a text writes a program, the tokens between the braces of a body that is skipped can be replaced by any
others whose braces are balanced: the program is the same. -/
theorem opaque_bodies :
    (∀ (c : Cursor) (first : Token) (ts : List Token), c.rest = first :: ts → first.kind = .mark .openBrace →
      (∀ d, skipBraces c = (.ok (), d) ↔
        ∃ body last after, ClosesBody ts body last after ∧ d = ⟨after, c.finish⟩) ∧
      ∀ e d, skipBraces c = (.error e, d) ↔
        (¬∃ body last after, ClosesBody ts body last after) ∧
          e = .grammar ⟨.missingDelimiter "\x7d", c.finish⟩ ∧ d = ⟨[], c.finish⟩) ∧
    ∀ (s : TokenStream) (p : Program) (b : Cursor), s.parse.result [] = .ok p → s.OpaqueAt b →
      ∃ before first ts body last after, s.tokens = before ++ first :: ts ∧ b = ⟨first :: ts, s.finish⟩ ∧
        ClosesBody ts body last after ∧
          ∀ body', Balanced body' → (∀ t ∈ body', t.kind ≠ .endOfInput) →
            (TokenStream.parse ⟨before ++ first :: (body' ++ last :: after), s.finish⟩).result [] = .ok p := by
  refine ⟨fun c first ts hrest hfirst =>
    ⟨fun d => run_skipBraces_ok hrest hfirst, fun e d => run_skipBraces_error hrest hfirst⟩, fun s p b hp hopaque => ?_⟩
  have hfactors := TokenStream.factors_skipBraces hopaque
  obtain ⟨hkind, -⟩ := hopaque
  obtain ⟨⟨⟩, d, hrun⟩ := hfactors.succeeds hp
  obtain ⟨_ | ⟨first, ts⟩, finish⟩ := b
  · cases hkind
  obtain ⟨body, last, after, hcloses, rfl⟩ := (run_skipBraces_ok rfl hkind).1 hrun
  obtain ⟨before, hstart⟩ := hfactors.exists_before
  obtain rfl : finish = s.finish := congrArg Cursor.finish hstart.symm
  refine ⟨before, first, ts, body, last, after, congrArg Cursor.rest hstart, rfl, hcloses, fun body' hbody' _ => ?_⟩
  -- Behind the other body reading goes on at the same cursor.
  have hrun' : skipBraces ⟨first :: (body' ++ last :: after), s.finish⟩ = (.ok (), ⟨after, s.finish⟩) :=
    (run_skipBraces_ok rfl hkind).2 ⟨body', last, after, ⟨rfl, hbody', hcloses.last⟩, rfl⟩
  have hparse : TokenStream.parse ⟨before ++ first :: (body' ++ last :: after), s.finish⟩ = s.parse :=
    hfactors.parse_eq (d := ⟨first :: (body' ++ last :: after), s.finish⟩) hstart rfl (hrun'.trans hrun.symm)
  rw [hparse, hp]

/-- A template with a characteristic whose value is an object. -/
def objectSource : String :=
  "template \"T\" \x7b characteristics \x7b a = \x7b b \x7d \x7d \x7d"

/-- The tokens of the source from the name of the characteristic on. -/
def objectRest : List Token :=
  [⟨.identifier, "a", ⟨1, 34, 33⟩⟩, ⟨.mark .assign, "=", ⟨1, 36, 35⟩⟩, ⟨.mark .openBrace, "\x7b", ⟨1, 38, 37⟩⟩,
    ⟨.identifier, "b", ⟨1, 40, 39⟩⟩, ⟨.mark .closeBrace, "\x7d", ⟨1, 42, 41⟩⟩,
    ⟨.mark .closeBrace, "\x7d", ⟨1, 44, 43⟩⟩, ⟨.mark .closeBrace, "\x7d", ⟨1, 46, 45⟩⟩]

/-- The tokens of the source in front of the name of the characteristic. -/
def objectFront : List Token :=
  [⟨.keyword .template, "template", ⟨1, 1, 0⟩⟩, ⟨.string "T", "\"T\"", ⟨1, 10, 9⟩⟩,
    ⟨.mark .openBrace, "\x7b", ⟨1, 14, 13⟩⟩, ⟨.keyword .characteristics, "characteristics", ⟨1, 16, 15⟩⟩,
    ⟨.mark .openBrace, "\x7b", ⟨1, 32, 31⟩⟩]

/-- The object is skipped, and other tokens between its braces give the same program. -/
theorem opaque_bodies_objectSource :
    ∃ s p b d, tokenize objectSource = .ok s ∧ s.parse.result [] = .ok p ∧ s.OpaqueAt b ∧
      skipBraces b = (.ok (), d) ∧
        ∃ before first ts body last after, s.tokens = before ++ first :: ts ∧ b = ⟨first :: ts, s.finish⟩ ∧
          ClosesBody ts body last after ∧
            ∀ body', Balanced body' → (∀ t ∈ body', t.kind ≠ .endOfInput) →
              (TokenStream.parse ⟨before ++ first :: (body' ++ last :: after), s.finish⟩).result [] = .ok p := by
  let s : TokenStream := ⟨objectFront ++ objectRest, ⟨1, 47, 46⟩⟩
  let b : Cursor := ⟨objectRest.drop 2, s.finish⟩
  have htokens : tokenize objectSource = .ok s := by
    have hchars : objectSource.toList = _ := String.toList_ofList
    rw [tokenize_of_toList hchars]
    decide +kernel
  have hparse : s.parse.result [] =
      .ok ⟨[.template ⟨"T", "OUTLET",
        [.characteristics ⟨[.assignment ⟨"a", .string objectPlaceholder ⟨1, 38, 37⟩, ⟨1, 34, 33⟩⟩], ⟨1, 16, 15⟩⟩],
        ⟨1, 1, 0⟩⟩]⟩ := by
    cbv
  have hstatement : s.StatementAt (.ofStream s) := .first (List.cons_ne_nil _ _)
  have hblock : s.BlockAt ⟨objectFront.drop 3 ++ objectRest, s.finish⟩ :=
    ⟨objectFront.take 3, ⟨objectFront.drop 3 ++ objectRest, s.finish⟩,
      .inl ⟨.intro rfl .nothing rfl rfl, hstatement⟩, .first rfl⟩
  have hcharacteristic : s.CharacteristicAt ⟨objectRest, s.finish⟩ :=
    ⟨objectFront.drop 3, ⟨objectRest, s.finish⟩, .intro rfl rfl, hblock, .first rfl⟩
  have hopaque : s.OpaqueAt b := ⟨rfl, .inl ⟨objectRest.take 2, .object (.inl rfl) rfl, hcharacteristic⟩⟩
  obtain ⟨hskip, hbodies⟩ := opaque_bodies
  obtain ⟨hok, -⟩ := hskip b _ _ rfl rfl
  have hbody : Balanced [⟨.identifier, "b", ⟨1, 40, 39⟩⟩] := Paired.balanced (.token rfl)
  exact ⟨s, _, b, _, htokens, hparse, hopaque, (hok _).2 ⟨_, _, _, ⟨rfl, hbody, rfl⟩, rfl⟩,
    hbodies s _ b hparse hopaque⟩

end MediaLanguage

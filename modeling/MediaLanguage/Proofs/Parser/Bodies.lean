import MediaLanguage.Proofs.Parser.Insertion

/-!
# Bodies with a comment in them

The loops of the grammar treat line breaks and comments in two ways. Where both are skipped, the runs without and with
the comment go round side by side (`alike_braced`, `alike_commaList`). Where a comment is an item of its own, the run
with the comment takes one round more: the first run has passed the line break when the second stops at the comment
(`Insertion.Parted`), and behind that round both are at the same cursor (`alike_braced_kept`).
-/

open MediaLanguage.Parser

namespace MediaLanguage

/-! ## Lists of nodes -/

/-- A relation between lists that is kept when lists are joined. -/
structure Composes {α β : Type} (L : List α → List β → Prop) : Prop where
  nil : L [] []
  append {as as' : List α} {bs bs' : List β} : L as bs → L as' bs' → L (as ++ as') (bs ++ bs')

theorem composes_eq {α : Type} : Composes (Eq (α := List α)) where
  nil := rfl
  append := by rintro as as' _ _ rfl rfl; rfl

/-! ## Loops -/

/-- Skipping that goes on with more kinds. -/
theorem Cursor.skipWhile_skipWhile {p q : Kind → Bool} (h : ∀ k, p k = true → q k = true) (c : Cursor) :
    (c.skipWhile p).skipWhile q = c.skipWhile q := by
  obtain ⟨rest, finish⟩ := c
  induction rest with
  | nil => rfl
  | cons t ts ih =>
    simp only [Cursor.skipWhile, List.dropWhile_cons] at ih ⊢
    cases hp : p t.kind with
    | true => simpa [h _ hp] using ih
    | false => simp [List.dropWhile_cons]

section Loops

variable {K : Cursor → Cursor → Prop} {α β : Type} {L : List α → List β → Prop}

/-- Loops whose rounds go side by side. The induction is on the tokens that the first run has left. -/
theorem Simulates.loop {closing : Mark} {round : Parser (List α × Bool)} {round' : Parser (List β × Bool)}
    (hL : Composes L) (hround : Simulates K K (fun r r' => L r.1 r'.1 ∧ r.2 = r'.2) round round')
    (hadvances : Advances closing round) (hadvances' : Advances closing round') :
    Simulates K K L (loop round) (loop round') := by
  intro c c' hK as e hrun
  induction hlen : c.rest.length using Nat.strong_induction_on generalizing c c' as with
  | _ n ih =>
    rw [repeats_of_advances hadvances] at hrun
    rw [repeats_of_advances hadvances']
    obtain ⟨⟨nodes, more⟩, d, hfirst, hrest⟩ := run_bind_ok.1 hrun
    obtain ⟨⟨nodes', more'⟩, d', hfirst', ⟨hnodes, hmore⟩, hK'⟩ := hround c c' hK _ d hfirst
    dsimp only at hmore hnodes
    subst hmore
    cases more with
    | false =>
      cases hrest
      exact ⟨nodes', d', run_bind_ok.2 ⟨_, _, hfirst', rfl⟩, hnodes, hK'⟩
    | true =>
      obtain ⟨as', _, hloop, ⟨⟩⟩ := run_bind_ok.1 hrest
      have hlt : d.rest.length < n := hlen ▸ (hadvances c nodes true d hfirst).resolve_right (by simp)
      obtain ⟨bs', e', hloop', hlater, hK''⟩ := ih _ hlt d d' hK' as' hloop rfl
      refine ⟨nodes' ++ bs', e', run_bind_ok.2 ⟨_, _, hfirst', ?_⟩, hL.append hnodes hlater, hK''⟩
      exact run_bind_ok.2 ⟨bs', e', hloop', rfl⟩

end Loops

section Items

variable {α : Type} {closing : Mark} {skip : Kind → Bool} {item : Parser (List α)} {c d e : Cursor}

/-- A loop over items ends at the token. -/
def endsItems (closing : Mark) (t : Token) : Bool :=
  [Kind.mark closing, .endOfInput].contains t.kind

/-- A round of a loop over items. -/
theorem run_itemRound (closing : Mark) (skip : Kind → Bool) (item : Parser (List α)) (c : Cursor) :
    itemRound closing skip item c = (if endsItems closing (c.skipWhile skip).current then pure ([], false)
      else do return (← item, true) : Parser (List α × Bool)) (c.skipWhile skip) := rfl

/-- A loop over items: it ends, or it reads an item and goes on. -/
theorem run_items_ok (hitem : ∀ c, Consumes item c) {as : List α} :
    loop (itemRound closing skip item) c = (.ok as, e) ↔
      (endsItems closing (c.skipWhile skip).current = true ∧ as = [] ∧ e = c.skipWhile skip) ∨
        (endsItems closing (c.skipWhile skip).current = false ∧ ∃ nodes d rest,
          item (c.skipWhile skip) = (.ok nodes, d) ∧ loop (itemRound closing skip item) d = (.ok rest, e) ∧
            as = nodes ++ rest) := by
  rw [repeats_of_advances (advances_itemRound hitem), run_bind_ok, run_itemRound]
  cases hends : endsItems closing (c.skipWhile skip).current with
  | true =>
    constructor
    · rintro ⟨_, _, ⟨⟩, ⟨⟩⟩
      exact .inl ⟨rfl, rfl, rfl⟩
    · rintro (⟨-, rfl, rfl⟩ | ⟨⟨⟩, -⟩)
      exact ⟨_, _, rfl, rfl⟩
  | false =>
    constructor
    · rintro ⟨_, d, hfirst, hnext⟩
      obtain ⟨nodes, _, hread, ⟨⟩⟩ := run_bind_ok.1 hfirst
      obtain ⟨rest, _, hloop, ⟨⟩⟩ := run_bind_ok.1 hnext
      exact .inr ⟨rfl, nodes, d, rest, hread, hloop, rfl⟩
    · rintro (⟨⟨⟩, -⟩ | ⟨-, nodes, d, rest, hread, hloop, rfl⟩)
      exact ⟨_, _, run_bind_ok.2 ⟨_, _, hread, rfl⟩, run_bind_ok.2 ⟨_, _, hloop, rfl⟩⟩

/-- What may be skipped in front of the first item does not matter to a loop. -/
theorem run_items_skipWhile (hitem : ∀ c, Consumes item c) (c : Cursor) :
    loop (itemRound closing skip item) (c.skipWhile skip) = loop (itemRound closing skip item) c := by
  have hround : itemRound closing skip item (c.skipWhile skip) = itemRound closing skip item c := by
    rw [run_itemRound, Cursor.skipWhile_skipWhile (fun _ h => h), run_itemRound]
  rw [repeats_of_advances (advances_itemRound hitem), repeats_of_advances (advances_itemRound hitem)]
  exact run_bind_congr_left hround

end Items

namespace Insertion

variable {I : Insertion} {t : Token} {α : Type}

/-! ## Bodies that skip comments -/

section Skipped

variable {closing : Mark}

/-- Behind line breaks and comments both cursors show the same token. -/
theorem simulates_skipTrivia {β : Type} {R : α → β → Prop} {E : Cursor → Cursor → Prop} {p : Parser α} {q : Parser β}
    (h : ∀ t, Simulates (I.At t) E R p q) :
    Simulates I.Beside E R (skipWhile isTrivia >>= fun _ => p) (skipWhile isTrivia >>= fun _ => q) := by
  intro c c' hbeside a d hrun
  have hskip : isTrivia I.newline.kind = isTrivia I.comment.kind := I.skip_eq rfl rfl
  obtain ⟨t, hat⟩ | ⟨hbreak, -⟩ := (hbeside.skipWhile hskip).split
  · exact h t _ _ hat a d hrun
  · have hhead := List.head?_dropWhile_not (fun t => isTrivia t.kind) c.rest
    have hrest : c.rest.dropWhile (fun t => isTrivia t.kind) = I.newline :: I.after := congrArg Cursor.rest hbreak
    rw [hrest] at hhead
    simp [I.newline_kind, isTrivia] at hhead

/-- A round of a body that skips comments. -/
theorem alike_itemRound {L : List α → List α → Prop} {item : Parser (List α)} (hL : Composes L)
    (hitem : ∀ t, I.AlikeAt t L item item) :
    I.Alike (fun r r' => L r.1 r'.1 ∧ r.2 = r'.2) (itemRound closing isTrivia item)
      (itemRound closing isTrivia item) := by
  apply simulates_skipTrivia
  intro t
  apply simulates_seesAny
  refine .ite (fun _ => Simulates.at (.pure ⟨hL.nil, rfl⟩) t) (fun _ => ?_)
  exact (hitem t).bind fun as bs h => .pure ⟨h, rfl⟩

/-- A body in braces that skips comments. -/
theorem alike_braced {L : List α → List α → Prop} {item : Parser (List α)} (hL : Composes L)
    (hconsumes : ∀ c, Consumes item c) (hitem : ∀ t, I.AlikeAt t L item item) :
    I.Alike L (braced isTrivia item) (braced isTrivia item) := by
  have hadvances : Advances .closeBrace (itemRound .closeBrace isTrivia item) := advances_itemRound hconsumes
  rw [braced_eq]
  refine (alike_mark _).next fun _ => (Simulates.loop hL (alike_itemRound hL hitem) hadvances hadvances).bind ?_
  exact fun as bs h => (alike_mark _).result fun _ => h

/-- Items with commas between them. -/
theorem alike_commaList {item : Parser α} (hloop : GrammarLoop closing (commaRound closing item))
    (hitem : ∀ t, I.AlikeAt t Eq item item) : I.Alike Eq (commaList closing item) (commaList closing item) := by
  have hround : I.Alike (fun r r' => r.1 = r'.1 ∧ r.2 = r'.2) (commaRound closing item) (commaRound closing item) := by
    apply simulates_skipTrivia
    intro t
    apply simulates_seesAny
    refine .ite (fun _ => Simulates.at (.pure ⟨rfl, rfl⟩) t) (fun _ => (hitem t).next fun node => ?_)
    exact alike_skipTrivia.next fun _ => (alike_accept rfl).result fun _ => ⟨rfl, rfl⟩
  rw [commaList_eq]
  refine (Simulates.loop composes_eq hround hloop.advances hloop.advances).next fun items => ?_
  exact alike_skipTrivia.next fun _ => (alike_mark _).same

end Skipped

/-! ## Bodies that keep comments -/

/-- Line breaks are skipped, but comments are not. -/
structure KeepsComments (skip : Kind → Bool) : Prop where
  newline : skip .newline = true
  comment : skip .comment = false
  blockComment : skip .blockComment = false

theorem keepsComments_isNewline : KeepsComments isNewline := ⟨rfl, rfl, rfl⟩

theorem keepsComments_isDivider : KeepsComments isDivider := ⟨rfl, rfl, rfl⟩

/-- The second cursor is at the comment, and the first may have passed the line break. -/
def Parted (I : Insertion) (skip : Kind → Bool) (c c' : Cursor) : Prop :=
  c.skipWhile skip = I.atNewline.skipWhile skip ∧ c' = I.atComment

/-- Cursors between the items of a body that keeps comments. -/
def Near (I : Insertion) (skip : Kind → Bool) (c c' : Cursor) : Prop :=
  I.Beside c c' ∨ I.Parted skip c c'

section Kept

variable {skip : Kind → Bool} {closing : Mark}

theorem KeepsComments.skip_comment (h : KeepsComments skip) (I : Insertion) : skip I.comment.kind = false := by
  obtain hkind | hkind := I.kind_comment <;> rw [hkind]
  · exact h.comment
  · exact h.blockComment

theorem KeepsComments.skipWhile_atComment (h : KeepsComments skip) (I : Insertion) :
    I.atComment.skipWhile skip = I.atComment := by
  simp [Cursor.skipWhile, atComment, h.skip_comment I]

/-- Line breaks in front of the comment part the cursors. -/
theorem parted_of_skipped {own : List Token} (hskip : KeepsComments skip) (hown : ∀ t ∈ own, skip t.kind = true) :
    I.Parted skip ⟨own ++ I.newline :: I.after, I.finish⟩
      (Cursor.skipWhile skip ⟨own ++ I.comment :: I.newline :: I.after, I.finish⟩) := by
  refine ⟨?_, Eq.trans ?_ (hskip.skipWhile_atComment I)⟩ <;>
    simp only [Cursor.skipWhile, List.dropWhile_append_of_pos hown, atNewline, atComment]

/-- Behind line breaks both cursors show the same token, unless the second is stopped by the comment. -/
theorem Beside.skip_kept {c c' : Cursor} (hskip : KeepsComments skip) (h : I.Beside c c') :
    (∃ t, I.At t (c.skipWhile skip) (c'.skipWhile skip)) ∨ I.Parted skip c (c'.skipWhile skip) := by
  obtain hat | ⟨own, hown, rfl, rfl⟩ := h.skip_split skip
  · exact .inl hat
  · exact .inr (parted_of_skipped hskip hown)

/-- A round that reads the comment, in front of the rounds from the line break on. -/
theorem run_items_atComment {item : Parser (List α)} {nodes as : List α} {e : Cursor} (hskip : KeepsComments skip)
    (hconsumes : ∀ c, Consumes item c) (hnodes : item I.atComment = (.ok nodes, I.atNewline))
    (hloop : loop (itemRound closing skip item) I.atNewline = (.ok as, e)) :
    loop (itemRound closing skip item) I.atComment = (.ok (nodes ++ as), e) := by
  rw [run_items_ok hconsumes, hskip.skipWhile_atComment I]
  refine .inr ⟨?_, nodes, I.atNewline, as, hnodes, hloop, rfl⟩
  have hclosing : I.comment.kind ≠ .mark closing := I.kind_comment_ne rfl
  have hend : I.comment.kind ≠ .endOfInput := I.kind_comment_ne rfl
  simpa [endsItems, atComment, Cursor.current, Cursor.peek] using ⟨hclosing, hend⟩

/-- The items of a body that keeps comments, behind the opening brace. The induction is on the tokens that the second
run has left: the comment is read in a round of its own, behind which both runs are at the line break. -/
theorem simulates_items {L : List α → List α → Prop} {item : Parser (List α)} (hskip : KeepsComments skip)
    (hL : Composes L) (hconsumes : ∀ c, Consumes item c) (hitem : ∀ t, Simulates (I.At t) (I.Near skip) L item item)
    (hcomment : ∃ nodes, item I.atComment = (.ok nodes, I.atNewline) ∧ L [] nodes) :
    Simulates (I.Near skip) I.Beside L (loop (itemRound closing skip item)) (loop (itemRound closing skip item)) := by
  intro c c' hnear as e hrun
  induction hlen : c'.rest.length using Nat.strong_induction_on generalizing c c' as with
  | _ n ih =>
    have hextra : I.atNewline.rest.length < n → c.skipWhile skip = I.atNewline.skipWhile skip →
        ∃ bs e', loop (itemRound closing skip item) I.atComment = (.ok bs, e') ∧ L as bs ∧ I.Beside e e' := by
      intro hlt hpassed
      rw [← run_items_skipWhile hconsumes, hpassed, run_items_skipWhile hconsumes] at hrun
      obtain ⟨bs, e', hloop, hLs, hbeside⟩ := ih _ hlt _ _ (.inl (.behind I.atNewline)) as hrun rfl
      obtain ⟨nodes, hnodes, hnil⟩ := hcomment
      exact ⟨nodes ++ bs, e', run_items_atComment hskip hconsumes hnodes hloop, hL.append hnil hLs, hbeside⟩
    obtain hbeside | ⟨hpassed, rfl⟩ := hnear
    · obtain ⟨t, hat⟩ | ⟨hpassed, hstopped⟩ := hbeside.skip_kept hskip
      · obtain ⟨hends, rfl, rfl⟩ | ⟨hends, nodes, d, rest, hread, hloop, rfl⟩ := (run_items_ok hconsumes).1 hrun
        · rw [hat.left, ← hat.right] at hends
          exact ⟨[], _, (run_items_ok hconsumes).2 (.inl ⟨hends, rfl, rfl⟩), hL.nil, hat.beside⟩
        · rw [hat.left, ← hat.right] at hends
          obtain ⟨nodes', d', hread', hnodes, hnear'⟩ := hitem t _ _ hat nodes d hread
          have hlt : d'.rest.length < n := hlen ▸
            Nat.lt_of_lt_of_le (hconsumes _ nodes' d' hread') (c'.reaches_skipWhile skip).length_le
          obtain ⟨rest', e', hloop', hrest, hbeside'⟩ := ih _ hlt d d' hnear' rest hloop rfl
          exact ⟨nodes' ++ rest', e', (run_items_ok hconsumes).2 (.inr ⟨hends, nodes', d', rest', hread', hloop', rfl⟩),
            hL.append hnodes hrest, hbeside'⟩
      · have hle := (c'.reaches_skipWhile skip).length_le
        rw [hstopped, hlen] at hle
        obtain ⟨bs, e', hloop', hLs, hbeside'⟩ := hextra hle hpassed
        rw [← hstopped, run_items_skipWhile hconsumes] at hloop'
        exact ⟨bs, e', hloop', hLs, hbeside'⟩
    · exact hextra (hlen ▸ Nat.lt_succ_self _) hpassed

/-- A body in braces that keeps comments; behind an item the runs may be parted by the comment. -/
theorem alike_braced_near {L : List α → List α → Prop} {item : Parser (List α)} (hskip : KeepsComments skip)
    (hL : Composes L) (hconsumes : ∀ c, Consumes item c) (hitem : ∀ t, Simulates (I.At t) (I.Near skip) L item item)
    (hcomment : ∃ nodes, item I.atComment = (.ok nodes, I.atNewline) ∧ L [] nodes) :
    I.Alike L (braced skip item) (braced skip item) := by
  have hitems : Simulates (I.Near skip) I.Beside L (loop (itemRound .closeBrace skip item)) _ :=
    simulates_items hskip hL hconsumes hitem hcomment
  rw [braced_eq]
  refine (alike_mark _).next fun _ => (hitems.of_imp fun _ _ => .inl).bind fun as bs h => ?_
  exact (alike_mark _).result fun _ => h

/-- A body in braces that keeps comments. -/
theorem alike_braced_kept {L : List α → List α → Prop} {item : Parser (List α)} (hskip : KeepsComments skip)
    (hL : Composes L) (hconsumes : ∀ c, Consumes item c) (hitem : ∀ t, I.AlikeAt t L item item)
    (hcomment : ∃ nodes, item I.atComment = (.ok nodes, I.atNewline) ∧ L [] nodes) :
    I.Alike L (braced skip item) (braced skip item) :=
  alike_braced_near hskip hL hconsumes (fun t => (hitem t).imp fun _ _ => .inl) hcomment

end Kept

/-! ## Items -/

section Items

variable {R : α → α → Prop} {onComment onTag onField : Parser α}

/-- An item of a block that may hold comments. -/
theorem alike_blockItem (hcomment : I.AlikeAt t R onComment onComment) (htag : I.AlikeAt t R onTag onTag)
    (hfield : I.AlikeAt t R onField onField) :
    I.AlikeAt t R (blockItem onComment onTag onField) (blockItem onComment onTag onField) := by
  apply simulates_current
  refine .ite (fun _ => hcomment) (fun _ => .ite (fun _ => htag.bind ?_) (fun _ => hfield.bind ?_)) <;>
    exact fun a b h => alike_skipSeparators.result fun _ => h

/-- At the comment the item is a comment. -/
theorem run_blockItem_atComment : blockItem onComment onTag onField I.atComment = onComment I.atComment := by
  show (if I.comment.kind.isComment then onComment else _ : Parser α) I.atComment = _
  rw [I.comment_kind]
  rfl

/-- A body that drops comments and annotations. -/
theorem alike_plainBody {field : Parser α} (hconsumes : ∀ c, Consumes (plainItem field) c)
    (hfield : ∀ t, I.AlikeAt t Eq field field) :
    I.Alike Eq (braced isNewline (plainItem field)) (braced isNewline (plainItem field)) := by
  refine alike_braced_kept keepsComments_isNewline composes_eq hconsumes (fun t => ?_)
    ⟨[], run_blockItem_atComment, rfl⟩
  exact alike_blockItem (alike_read (.pure rfl)) (alike_tag.same.at t) (hfield t).same

/-- An item of a block that skips comments and drops annotations. -/
theorem alike_untaggedItem {field : Parser α} {after : Parser Unit} {L : List α → List α → Prop} (hL : Composes L)
    (hsingle : ∀ a b, R a b → L [a] [b]) (hfield : I.AlikeAt t R field field) (hafter : I.Alike Eq after after) :
    I.AlikeAt t L (untaggedItem field after) (untaggedItem field after) := by
  apply simulates_sees
  refine .ite (fun _ => ?_) (fun _ => ?_)
  · have htag : I.Alike Eq skipTag skipTag := alike_tag.next fun _ => alike_skipSeparators
    exact (htag.result fun _ => hL.nil).at t
  · exact hfield.bind fun a b h => hafter.result fun _ => hsingle a b h

/-- An item of a block that skips comments. -/
theorem alike_separated {field : Parser α} (hfield : I.AlikeAt t Eq field field) :
    I.AlikeAt t Eq (do let a ← field; skipSeparators; return [a]) (do let a ← field; skipSeparators; return [a]) :=
  hfield.next fun _ => alike_skipSeparators.same

end Items

end Insertion

end MediaLanguage

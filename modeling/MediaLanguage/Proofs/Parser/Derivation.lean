import MediaLanguage.Proofs.Parser.Bodies
import MediaLanguage.Proofs.Parser.Taking

/-!
# The grammar of expressions

    expression ::= $ name | string | number | boolean | { trivia* (field separator* trivia*)* }
    field      ::= name = (string TO (string | CURRENT) | expression)

A name is an identifier or any keyword, `TO` among them, so a string literal in front of `TO` could end a field or
begin a period: it begins a period. Trivia are line breaks and comments, and separators, which are semicolons and
commas, may not follow trivia. `DerivesExpr` is this grammar as a relation between tokens and the expression they
write.

* `run_expressionWithin_ok`: a run that reads an expression has passed over tokens that derive it, and tokens that
  derive an expression are read, whatever stands behind them.
* `expression_reads_grammar`: the same for a text, by indices; so where an expression starts, there is one.
-/

open MediaLanguage.Ast MediaLanguage.Parser

namespace MediaLanguage

/-! ## The grammar -/

/-- A token that may be a name: an identifier or any keyword. -/
def Token.IsName (t : Token) : Prop :=
  t.kind = .identifier ∨ t.kind.isKeyword = true

/-- A kind of keywords is that of one of them. -/
theorem Kind.exists_keyword {k : Kind} (h : k.isKeyword = true) : ∃ w, k = .keyword w := by
  cases k <;> cases h
  exact ⟨_, rfl⟩

/-- The date that a token writes. -/
def Token.date? (t : Token) : Option Date :=
  match t.lexeme with
  | .keyword .current => some (.current t.position)
  | .string value => some (.day value t.position)
  | _ => none

/-- A string literal stands first, and `TO` directly behind it. -/
def BeginsPeriod (ts : List Token) : Prop :=
  ∃ t u rest, ts = t :: u :: rest ∧ t.kind = .string ∧ u.kind = .keyword .toDate

mutual

/-- The tokens derive an expression. -/
inductive DerivesExpr : List Token → Expr → Prop
  | reference {sign label : Token} : sign.kind = .mark .dollar → label.IsName →
      DerivesExpr [sign, label] (.reference label.text sign.position)
  | string {t : Token} {value : String} : t.lexeme = .string value → DerivesExpr [t] (.string value t.position)
  | number {t : Token} {value : Number} : t.lexeme = .number value → DerivesExpr [t] (.number value t.position)
  | boolean {t : Token} {value : Bool} : t.lexeme = .boolean value → DerivesExpr [t] (.boolean value t.position)
  | object {opening closing : Token} {gap body : List Token} {members : List Member} :
      opening.kind = .mark .openBrace → (∀ t ∈ gap, isTrivia t.kind) → DerivesMembers body members →
      closing.kind = .mark .closeBrace →
      DerivesExpr (opening :: (gap ++ body ++ [closing])) (.object members opening.position)

/-- The second tokens derive a field of an object that has the first tokens behind it. -/
inductive DerivesField : List Token → List Token → Member → Prop
  | period {following : List Token} {label sign start word finish : Token} {text : String} {day : Date} :
      label.IsName → sign.kind = .mark .assign → start.lexeme = .string text → word.kind = .keyword .toDate →
      finish.date? = some day →
      DerivesField following [label, sign, start, word, finish]
        (.period label.text ⟨.day text start.position, some day⟩ label.position)
  | assignment {following value : List Token} {label sign : Token} {e : Expr} : label.IsName →
      sign.kind = .mark .assign → DerivesExpr value e → ¬BeginsPeriod (value ++ following) →
      DerivesField following (label :: sign :: value) (.assignment label.text e label.position)

/-- The tokens derive fields, each with separators and trivia behind it. -/
inductive DerivesMembers : List Token → List Member → Prop
  | nil : DerivesMembers [] []
  | cons {field separators gap rest : List Token} {m : Member} {members : List Member} :
      DerivesField (separators ++ gap ++ rest) field m → (∀ t ∈ separators, isSeparator t.kind) →
      (∀ t ∈ gap, isTrivia t.kind) → DerivesMembers rest members →
      DerivesMembers (field ++ (separators ++ gap ++ rest)) (m :: members)

end

/-- An expression has tokens. -/
theorem DerivesExpr.ne_nil {ts : List Token} {e : Expr} (h : DerivesExpr ts e) : ts ≠ [] := by
  cases h <;> simp

/-! ## Cursors in front of tokens -/

namespace Cursor

variable {c d : Cursor} {t : Token} {ts us : List Token} {p : Kind → Bool}

/-- The cursor in front of tokens that `d` stands behind. -/
def prepend (d : Cursor) (ts : List Token) : Cursor :=
  { d with rest := ts ++ d.rest }

@[simp] theorem prepend_prepend : (d.prepend us).prepend ts = d.prepend (ts ++ us) := by
  simp [prepend]

@[simp] theorem length_prepend : (d.prepend ts).rest.length = ts.length + d.rest.length :=
  List.length_append

@[simp] theorem current_prepend_cons : (d.prepend (t :: ts)).current = t := rfl

@[simp] theorem advance_prepend_cons : (d.prepend (t :: ts)).advance = d.prepend ts := rfl

/-- A token that is not the end stands in front of what follows it. -/
theorem eq_prepend (h : c.current.kind ≠ .endOfInput) : c = c.advance.prepend [c.current] := by
  obtain ⟨rest, finish⟩ := c
  exact congrArg (Cursor.mk · finish) (rest_eq_cons h)

/-- What is skipped stands in front of where the skipping ends. -/
theorem exists_skipWhile (p : Kind → Bool) (c : Cursor) :
    ∃ gap, (∀ t ∈ gap, p t.kind = true) ∧ c = (c.skipWhile p).prepend gap := by
  refine ⟨c.rest.takeWhile fun t => p t.kind, fun t ht => ?_, ?_⟩
  · exact List.mem_takeWhile_imp (p := fun u : Token => p u.kind) ht
  · obtain ⟨rest, finish⟩ := c
    simp [prepend, skipWhile]

/-- Skipping ends at a token that is not skipped. -/
theorem skipWhile_prepend (hts : ∀ t ∈ ts, p t.kind = true) (hd : p d.current.kind = false) :
    (d.prepend ts).skipWhile p = d := by
  have hrest : d.rest.dropWhile (fun t => p t.kind) = d.rest := by
    obtain ⟨_ | ⟨u, us⟩, finish⟩ := d
    · rfl
    · exact List.dropWhile_cons_of_neg (by simpa [current, peek] using hd)
  obtain ⟨rest, finish⟩ := d
  simp only [prepend, skipWhile, mk.injEq, and_true]
  rw [List.dropWhile_append_of_pos hts]
  exact hrest

end Cursor

namespace Parser

variable {c d : Cursor}

/-! ## Tokens that are read -/

/-- A token that is asked for is read exactly if it is there. -/
theorem run_expectAs_ok {kind : Kind} {t : Token} (hkind : kind ≠ .endOfInput) (expected : String) :
    expectAs kind expected c = (.ok t, d) ↔ t.kind = kind ∧ c = d.prepend [t] := by
  have hrun : expectAs kind expected c =
      (if c.current.kind == kind then advance else notThere kind expected : Parser Token) c := by
    show continueWith (fun b => if b then advance else notThere kind expected) (sees kind c) = _
    rw [run_sees]
    rfl
  rw [hrun]
  constructor
  · intro h
    split at h
    · next hsees =>
      cases h
      have hc := beq_iff_eq.1 hsees
      exact ⟨hc, Cursor.eq_prepend (hc ▸ hkind)⟩
    · obtain ⟨_, _, -, h⟩ := run_bind_ok.1 h
      split at h <;> cases h
  · rintro ⟨ht, rfl⟩
    rw [Cursor.current_prepend_cons, if_pos (beq_iff_eq.2 ht)]
    rfl

/-- A mark is read exactly if it is there. -/
theorem run_mark_ok {m : Mark} {t : Token} : mark m c = (.ok t, d) ↔ t.kind = .mark m ∧ c = d.prepend [t] :=
  run_expectAs_ok (by simp) _

/-- A name is read exactly if it is there. -/
theorem run_name_ok {label : String} :
    name c = (.ok label, d) ↔ ∃ t, t.IsName ∧ t.text = label ∧ c = d.prepend [t] := by
  constructor
  · intro h
    rw [name, run_current_bind] at h
    split at h
    · next hword =>
      cases h
      refine ⟨c.current, by simpa [Token.IsName] using hword, rfl, Cursor.eq_prepend ?_⟩
      intro hend
      simp [hend, Kind.isKeyword] at hword
    · cases h
  · rintro ⟨t, ht, rfl, rfl⟩
    rw [name, run_current_bind, Cursor.current_prepend_cons, if_pos (by simpa [Token.IsName] using ht)]
    rfl

/-- A date is read exactly if it is there. -/
theorem run_date_ok {day : Date} : date c = (.ok day, d) ↔ ∃ t, t.date? = some day ∧ c = d.prepend [t] := by
  constructor
  · intro h
    rw [date, run_current_bind] at h
    split at h
    · next hlexeme =>
      cases h
      exact ⟨c.current, by simp [Token.date?, hlexeme], Cursor.eq_prepend (by simp [Token.kind, hlexeme, Lexeme.kind])⟩
    · next value hlexeme =>
      cases h
      exact ⟨c.current, by simp [Token.date?, hlexeme], Cursor.eq_prepend (by simp [Token.kind, hlexeme, Lexeme.kind])⟩
    · cases h
  · rintro ⟨t, ht, rfl⟩
    unfold Token.date? at ht
    split at ht
    · next hlexeme =>
      cases ht
      rw [date, run_current_bind, Cursor.current_prepend_cons, hlexeme]
      rfl
    · next value hlexeme =>
      cases ht
      rw [date, run_current_bind, Cursor.current_prepend_cons, hlexeme]
      rfl
    · cases ht

/-! ## Fields -/

/-- A string literal has a text. -/
theorem exists_text {t : Token} (h : t.kind = .string) : ∃ text, t.lexeme = .string text := by
  unfold Token.kind at h
  cases hlexeme : t.lexeme <;> rw [hlexeme] at h <;> cases h
  exact ⟨_, rfl⟩

/-- A mark is told by its kind. -/
theorem lexeme_eq_mark {t : Token} {m : Mark} (h : t.kind = .mark m) : t.lexeme = .mark m := by
  unfold Token.kind at h
  cases hlexeme : t.lexeme <;> rw [hlexeme] at h <;> cases h
  rfl

/-- What stands behind tokens does not begin a period with them, unless `TO` is there. -/
theorem beginsPeriod_append {ts : List Token} (hts : ts ≠ []) (hd : d.current.kind ≠ .keyword .toDate) :
    BeginsPeriod (ts ++ d.rest) ↔ BeginsPeriod ts := by
  obtain ⟨t, ts, rfl⟩ := List.exists_cons_of_ne_nil hts
  obtain ⟨_ | ⟨u, us⟩, finish⟩ := d
  · rw [List.append_nil]
  cases ts with
  | nil =>
    have hu : u.kind ≠ .keyword .toDate := hd
    simp [BeginsPeriod, hu]
  | cons v vs => simp [BeginsPeriod]

/-- The tokens at a cursor begin a period exactly if its first two tokens do. -/
theorem beginsPeriod_rest : BeginsPeriod c.rest ↔
    c.current.kind = .string ∧ (c.peek 1).kind = .keyword .toDate := by
  obtain ⟨_ | ⟨t, _ | ⟨u, rest⟩⟩, finish⟩ := c <;>
    simp [BeginsPeriod, Cursor.current, Cursor.peek, Token.finish, Token.kind, Lexeme.kind]

/-- A look at the token after the one at the cursor. -/
theorem run_next_bind {α : Type} (f : Token → Parser α) (c : Cursor) : (next >>= f) c = f c.advance.current c := by
  rw [← Cursor.peek_one]
  rfl

/-- Tokens behind a field that do not start with `TO` do not matter to it. -/
theorem derivesField_append {following field : List Token} {m : Member} (hd : d.current.kind ≠ .keyword .toDate) :
    DerivesField (following ++ d.rest) field m ↔ DerivesField following field m := by
  constructor
  · intro h
    cases h with
    | period hlabel hsign hstart hword hfinish => exact .period hlabel hsign hstart hword hfinish
    | assignment hlabel hsign hts hplain =>
      rw [← List.append_assoc, beginsPeriod_append (by simp [hts.ne_nil]) hd] at hplain
      exact .assignment hlabel hsign hts hplain
  · intro h
    cases h with
    | period hlabel hsign hstart hword hfinish => exact .period hlabel hsign hstart hword hfinish
    | assignment hlabel hsign hts hplain =>
      refine .assignment hlabel hsign hts ?_
      rwa [← List.append_assoc, beginsPeriod_append (by simp [hts.ne_nil]) hd]

/-- A field of an object, and the separators behind it. -/
def objectItem (value : Parser Expr) : Parser (List Member) := do
  let m ← member value
  skipSeparators
  return [m]

theorem consumes_objectItem (value : Parser Expr) (c : Cursor) : Consumes (objectItem value) c := by
  have h : Consumes (member value) c := consumes_named
  exact h.bind

/-- A field starts with a name. -/
theorem exists_name_of_field {following field : List Token} {m : Member} (h : DerivesField following field m) :
    ∃ label rest, field = label :: rest ∧ label.IsName := by
  cases h with
  | period hlabel => exact ⟨_, _, rfl, hlabel⟩
  | assignment hlabel => exact ⟨_, _, rfl, hlabel⟩

/-- Where fields end, or one starts, there is no trivia and no separator. -/
theorem not_skipped {t : Token} (h : endsItems .closeBrace t = true ∨ t.IsName) :
    isTrivia t.kind = false ∧ isSeparator t.kind = false := by
  have hkind : t.kind = .mark .closeBrace ∨ t.kind = .endOfInput ∨ t.kind = .identifier ∨ ∃ w, t.kind = .keyword w := by
    rcases h with h | h | h
    · simp only [endsItems, List.contains_cons, List.contains_nil, Bool.or_false, Bool.or_eq_true, beq_iff_eq] at h
      exact h.elim .inl fun h => .inr (.inl h)
    · exact .inr (.inr (.inl h))
    · exact .inr (.inr (.inr (Kind.exists_keyword h)))
  rcases hkind with h | h | h | ⟨w, h⟩ <;> rw [h] <;> exact ⟨rfl, rfl⟩

/-- No name ends the fields. -/
theorem endsItems_of_name {t : Token} (h : t.IsName) : endsItems .closeBrace t = false := by
  rcases h with h | h
  · rw [endsItems, h]
    rfl
  · obtain ⟨w, h⟩ := Kind.exists_keyword h
    rw [endsItems, h]
    rfl

/-- Where fields end there is no `TO`. -/
theorem kind_ne_toDate {t : Token} (h : endsItems .closeBrace t = true) : t.kind ≠ .keyword .toDate := by
  intro hto
  rw [endsItems, hto] at h
  cases h

/-- Fields start with a name. -/
theorem current_prepend_members {body : List Token} {members : List Member} (h : DerivesMembers body members)
    (hd : endsItems .closeBrace d.current = true) :
    isTrivia (d.prepend body).current.kind = false ∧ isSeparator (d.prepend body).current.kind = false := by
  cases h with
  | nil => exact not_skipped (.inl hd)
  | cons hfield =>
    obtain ⟨label, rest, rfl, hlabel⟩ := exists_name_of_field hfield
    exact not_skipped (.inr hlabel)

/-- Separators are skipped up to trivia, a field or where the fields end. -/
theorem run_skipSeparators {separators gap rest : List Token} {members : List Member}
    (hseparators : ∀ t ∈ separators, isSeparator t.kind) (hgap : ∀ t ∈ gap, isTrivia t.kind)
    (hrest : DerivesMembers rest members) (hd : endsItems .closeBrace d.current = true) :
    skipSeparators (d.prepend (separators ++ gap ++ rest)) = (.ok (), d.prepend (gap ++ rest)) := by
  have hnext : isSeparator (d.prepend (gap ++ rest)).current.kind = false := by
    cases gap with
    | nil => exact (current_prepend_members hrest hd).2
    | cons t gap =>
      have ht := hgap t List.mem_cons_self
      show isSeparator t.kind = false
      cases hkind : t.kind <;> rw [hkind] at ht <;> first | rfl | cases ht
  rw [List.append_assoc, ← Cursor.prepend_prepend]
  exact congrArg (Prod.mk _) (Cursor.skipWhile_prepend hseparators hnext)

section Values

variable {value : Parser Expr} {n : Nat}
  (hvalue : ∀ c d e, c.rest.length < n → (value c = (.ok e, d) ↔ ∃ ts, DerivesExpr ts e ∧ c = d.prepend ts))
include hvalue

/-- A field is read exactly if tokens derive it. -/
theorem run_member_ok {m : Member} (hc : c.rest.length ≤ n) :
    member value c = (.ok m, d) ↔ ∃ field, DerivesField d.rest field m ∧ c = d.prepend field := by
  constructor
  · intro h
    rw [member, run_current_bind] at h
    obtain ⟨_, _, hname, h⟩ := run_bind_ok.1 h
    obtain ⟨sign, e, hmark, h⟩ := run_bind_ok.1 h
    obtain ⟨label, hlabel, rfl, rfl⟩ := run_name_ok.1 hname
    obtain ⟨hsign, rfl⟩ := run_mark_ok.1 hmark
    rw [run_current_bind, run_next_bind] at h
    split at h
    · next text hstring hto =>
      obtain ⟨_, _, ⟨⟩, h⟩ := run_bind_ok.1 h
      obtain ⟨_, _, ⟨⟩, h⟩ := run_bind_ok.1 h
      obtain ⟨day, _, hdate, ⟨⟩⟩ := run_bind_ok.1 h
      obtain ⟨finish, hfinish, hlast⟩ := run_date_ok.1 hdate
      have hstart : e = e.advance.prepend [e.current] :=
        Cursor.eq_prepend (by simp [Token.kind, hstring, Lexeme.kind])
      have hword : e.advance = e.advance.advance.prepend [e.advance.current] := Cursor.eq_prepend (by simp [hto])
      refine ⟨_, .period hlabel hsign hstring hto hfinish, ?_⟩
      have he : e = d.prepend [e.current, e.advance.current, finish] := by
        rw [hlast] at hword
        rw [hword] at hstart
        simpa using hstart
      exact congrArg (Cursor.prepend · [label, sign]) he
    · next hother =>
      obtain ⟨read, _, hread, ⟨⟩⟩ := run_bind_ok.1 h
      obtain ⟨ts, hts, rfl⟩ := (hvalue _ _ _ (by simp [Cursor.prepend] at hc; omega)).1 hread
      refine ⟨_, .assignment hlabel hsign hts ?_, by simp⟩
      intro hperiod
      obtain ⟨hstring, hto⟩ := (beginsPeriod_rest (c := d.prepend ts)).1 hperiod
      obtain ⟨text, htext⟩ := exists_text hstring
      exact hother text htext (Cursor.peek_one _ ▸ hto)
  · rintro ⟨field, hfield, rfl⟩
    cases hfield with
    | period hlabel hsign hstart hword hfinish =>
      rw [member, run_current_bind]
      refine run_bind_ok.2 ⟨_, d.prepend [_, _, _, _], run_name_ok.2 ⟨_, hlabel, rfl, rfl⟩, ?_⟩
      refine run_bind_ok.2 ⟨_, d.prepend [_, _, _], run_mark_ok.2 ⟨hsign, rfl⟩, ?_⟩
      rw [run_current_bind, run_next_bind]
      simp only [Cursor.current_prepend_cons, Cursor.advance_prepend_cons, hstart, hword]
      refine run_bind_ok.2 ⟨_, _, rfl, run_bind_ok.2 ⟨_, d.prepend [_], rfl, ?_⟩⟩
      exact run_bind_ok.2 ⟨_, _, run_date_ok.2 ⟨_, hfinish, rfl⟩, rfl⟩
    | @assignment _ ts label sign e hlabel hsign hts hplain =>
      rw [member, run_current_bind]
      refine run_bind_ok.2 ⟨_, d.prepend (sign :: ts), run_name_ok.2 ⟨_, hlabel, rfl, rfl⟩, ?_⟩
      refine run_bind_ok.2 ⟨_, d.prepend ts, run_mark_ok.2 ⟨hsign, rfl⟩, ?_⟩
      rw [run_current_bind, run_next_bind]
      split
      · next text hstring hto =>
        refine absurd (beginsPeriod_rest.2 ⟨?_, Cursor.peek_one _ ▸ hto⟩) hplain
        simp [Token.kind, hstring, Lexeme.kind]
      · exact run_bind_ok.2 ⟨_, _, (hvalue _ _ _ (by simp [Cursor.prepend] at hc ⊢; omega)).2 ⟨_, hts, rfl⟩, rfl⟩

/-- Fields are read, with what stands between them, up to a closing brace or the end exactly if tokens derive them. The
induction is on the tokens that are left. -/
theorem run_members_ok {members : List Member} (hc : c.rest.length ≤ n) :
    loop (itemRound .closeBrace isTrivia (objectItem value)) c = (.ok members, d) ↔
      endsItems .closeBrace d.current = true ∧ ∃ gap body, (∀ t ∈ gap, isTrivia t.kind) ∧
        DerivesMembers body members ∧ c = d.prepend (gap ++ body) := by
  induction hlen : c.rest.length using Nat.strong_induction_on generalizing c members with
  | _ k ih =>
    subst hlen
    rw [run_items_ok (consumes_objectItem value)]
    constructor
    · rintro (⟨hend, rfl, rfl⟩ | ⟨-, nodes, e, rest, hitem, hloop, rfl⟩)
      · obtain ⟨gap, hgap, hskip⟩ := c.exists_skipWhile isTrivia
        exact ⟨hend, gap, [], hgap, .nil, by simpa using hskip⟩
      · have hle := (c.reaches_skipWhile isTrivia).length_le
        have hlt := consumes_objectItem value _ _ _ hitem
        obtain ⟨hend, gap, body, hgap, hbody, hlater⟩ := (ih e.rest.length (by omega) (by omega) rfl).1 hloop
        obtain ⟨m, f, hm, hitem⟩ := run_bind_ok.1 hitem
        obtain ⟨_, _, ⟨⟩, ⟨⟩⟩ := run_bind_ok.1 hitem
        obtain ⟨front, hfront, hskip⟩ := c.exists_skipWhile isTrivia
        obtain ⟨field, hfield, hfirst⟩ := (run_member_ok hvalue (by omega)).1 hm
        obtain ⟨separators, hseparators, hf⟩ := f.exists_skipWhile isSeparator
        rw [hlater, Cursor.prepend_prepend] at hf
        rw [hf, Cursor.prepend_prepend] at hfirst
        rw [hfirst, Cursor.prepend_prepend] at hskip
        refine ⟨hend, front, _, hfront, .cons ?_ hseparators hgap hbody, by simpa using hskip⟩
        have hrest : f.rest = separators ++ gap ++ body ++ d.rest := by
          rw [hf]
          simp [Cursor.prepend]
        rwa [hrest, derivesField_append (kind_ne_toDate hend)] at hfield
    · rintro ⟨hend, front, body, hfront, hbody, rfl⟩
      have hskip : (d.prepend (front ++ body)).skipWhile isTrivia = d.prepend body := by
        rw [← Cursor.prepend_prepend]
        exact Cursor.skipWhile_prepend hfront (current_prepend_members hbody hend).1
      rw [hskip]
      cases hbody with
      | nil => exact .inl ⟨hend, rfl, rfl⟩
      | @cons field separators gap rest m members hfield hseparators hgap hrest =>
        obtain ⟨label, others, rfl, hlabel⟩ := exists_name_of_field hfield
        simp only [Cursor.length_prepend, List.length_append, List.length_cons] at hc ih
        refine .inr ⟨endsItems_of_name hlabel, [m], d.prepend (gap ++ rest), members, ?_, ?_, rfl⟩
        · refine run_bind_ok.2 ⟨m, d.prepend (separators ++ gap ++ rest), ?_, ?_⟩
          · have hfield' := (derivesField_append (kind_ne_toDate hend)).2 hfield
            refine (run_member_ok hvalue ?_).2 ⟨label :: others, hfield', by simp⟩
            simp only [Cursor.length_prepend, List.length_append, List.length_cons]
            omega
          · exact run_bind_ok.2 ⟨_, _, run_skipSeparators hseparators hgap hrest hend, rfl⟩
        · refine (ih _ ?_ ?_ Cursor.length_prepend).2 ⟨hend, gap, rest, hgap, hrest, rfl⟩ <;>
            simp only [Cursor.length_prepend, List.length_append] <;> omega

/-- An object is read exactly if tokens derive it. -/
theorem run_objectOf_ok {o : ObjectLiteral} (hc : c.rest.length ≤ n) :
    objectOf value c = (.ok o, d) ↔ ∃ ts, DerivesExpr ts o.toExpr ∧ c = d.prepend ts := by
  rw [objectOf, run_current_bind]
  constructor
  · intro h
    obtain ⟨members, _, hbraced, ⟨⟩⟩ := run_bind_ok.1 h
    rw [braced_eq] at hbraced
    obtain ⟨opening, e, hopening, hbraced⟩ := run_bind_ok.1 hbraced
    obtain ⟨_, f, hmembers, hbraced⟩ := run_bind_ok.1 hbraced
    obtain ⟨closing, _, hclosing, ⟨⟩⟩ := run_bind_ok.1 hbraced
    obtain ⟨hopen, rfl⟩ := run_mark_ok.1 hopening
    obtain ⟨hclose, rfl⟩ := run_mark_ok.1 hclosing
    rw [Cursor.length_prepend] at hc
    obtain ⟨-, gap, body, hgap, hbody, rfl⟩ := (run_members_ok hvalue (by omega)).1 hmembers
    exact ⟨_, .object hopen hgap hbody hclose, by simp⟩
  · rintro ⟨ts, hts, rfl⟩
    obtain ⟨members, position⟩ := o
    cases hts with
    | @object opening closing gap body _ hopen hgap hbody hclose =>
      have hend : endsItems .closeBrace (d.prepend [closing]).current = true := by
        rw [Cursor.current_prepend_cons, endsItems, hclose]
        rfl
      refine run_bind_ok.2 ⟨members, d, ?_, rfl⟩
      rw [braced_eq]
      refine run_bind_ok.2 ⟨opening, d.prepend (gap ++ body ++ [closing]), run_mark_ok.2 ⟨hopen, rfl⟩, ?_⟩
      refine run_bind_ok.2 ⟨members, d.prepend [closing], ?_, ?_⟩
      · refine (run_members_ok hvalue ?_).2 ⟨hend, gap, body, hgap, hbody, by simp⟩
        simp only [Cursor.length_prepend, List.length_cons] at hc ⊢
        omega
      · exact run_bind_ok.2 ⟨closing, d, run_mark_ok.2 ⟨hclose, rfl⟩, rfl⟩

end Values

/-! ## Expressions -/

/-- An expression is read exactly if tokens derive it. The induction is on the bound of its depth, which exceeds the
number of tokens. -/
theorem run_expressionWithin_ok {n : Nat} {e : Expr} (hc : c.rest.length < n) :
    expressionWithin n c = (.ok e, d) ↔ ∃ ts, DerivesExpr ts e ∧ c = d.prepend ts := by
  induction n generalizing c d e with
  | zero => exact absurd hc (Nat.not_lt_zero _)
  | succ n ih =>
    have hobject {o : ObjectLiteral} {c d : Cursor} (hc : c.rest.length ≤ n) :=
      run_objectOf_ok (o := o) (d := d) (fun c d e h => ih (c := c) (d := d) (e := e) h) hc
    rw [expressionWithin, run_current_bind]
    constructor
    · intro h
      have hfirst : c.current.kind ≠ .endOfInput → c = c.advance.prepend [c.current] := Cursor.eq_prepend
      unfold Token.kind at hfirst
      split at h
      · next hlexeme =>
        obtain ⟨_, _, ⟨⟩, h⟩ := run_bind_ok.1 h
        obtain ⟨_, _, hname, ⟨⟩⟩ := run_bind_ok.1 h
        obtain ⟨label, hlabel, rfl, hlast⟩ := run_name_ok.1 hname
        refine ⟨_, .reference (congrArg Lexeme.kind hlexeme) hlabel, ?_⟩
        rw [hlast, Cursor.prepend_prepend] at hfirst
        exact hfirst (by simp [hlexeme, Lexeme.kind])
      · next value hlexeme =>
        cases h
        exact ⟨_, .string hlexeme, hfirst (by simp [hlexeme, Lexeme.kind])⟩
      · next value hlexeme =>
        cases h
        exact ⟨_, .number hlexeme, hfirst (by simp [hlexeme, Lexeme.kind])⟩
      · next value hlexeme =>
        cases h
        exact ⟨_, .boolean hlexeme, hfirst (by simp [hlexeme, Lexeme.kind])⟩
      · obtain ⟨o, _, hread, ⟨⟩⟩ := run_bind_ok.1 h
        exact (hobject (by omega)).1 hread
      · cases h
    · rintro ⟨ts, hts, rfl⟩
      cases hts with
      | @reference sign label hsign hlabel =>
        have hlexeme : sign.lexeme = .mark .dollar := lexeme_eq_mark hsign
        rw [Cursor.current_prepend_cons, hlexeme]
        refine run_bind_ok.2 ⟨sign, d.prepend [label], rfl, ?_⟩
        exact run_bind_ok.2 ⟨_, d, run_name_ok.2 ⟨label, hlabel, rfl, rfl⟩, rfl⟩
      | string hlexeme => rw [Cursor.current_prepend_cons, hlexeme]; rfl
      | number hlexeme => rw [Cursor.current_prepend_cons, hlexeme]; rfl
      | boolean hlexeme => rw [Cursor.current_prepend_cons, hlexeme]; rfl
      | @object opening closing gap body members hopen hgap hbody hclose =>
        have hlexeme : opening.lexeme = .mark .openBrace := lexeme_eq_mark hopen
        rw [Cursor.current_prepend_cons, hlexeme]
        refine run_bind_ok.2 ⟨⟨members, opening.position⟩, d, ?_, rfl⟩
        exact (hobject (by omega)).2 ⟨_, .object hopen hgap hbody hclose, rfl⟩

end Parser

/-! ## Texts -/

namespace TokenStream

/-- The tokens from index `i` up to index `j` derive the expression. -/
def HasExpr (s : TokenStream) (i j : Nat) (e : Expr) : Prop :=
  i ≤ j ∧ j ≤ s.tokens.length ∧ DerivesExpr (s.tokens.extract i j) e

/-- At index `i` the expression is read, and the reading stops at index `j`. -/
def ReadsExpr (s : TokenStream) (i j : Nat) (e : Expr) : Prop :=
  ∃ d, expression (s.cursorAt i) = (.ok e, d) ∧ s.index d = j

variable {s : TokenStream} {i j : Nat} {e : Expr}

/-- An expression is read, up to an index, exactly if the tokens up to there derive it. -/
theorem readsExpr_iff : s.ReadsExpr i j e ↔ s.HasExpr i j e := by
  have hrun : ∀ d, expression (s.cursorAt i) = (.ok e, d) ↔
      ∃ ts, DerivesExpr ts e ∧ s.cursorAt i = d.prepend ts := by
    intro d
    rw [Pairing.run_expression]
    exact run_expressionWithin_ok (Nat.lt_succ_self _)
  constructor
  · rintro ⟨d, h, rfl⟩
    obtain ⟨ts, hts, hcursor⟩ := (hrun d).1 h
    have hdrop : s.tokens.drop i = ts ++ d.rest := congrArg Cursor.rest hcursor
    have hlength := congrArg List.length hdrop
    have hpos := List.length_pos_iff.2 hts.ne_nil
    rw [List.length_drop, List.length_append] at hlength
    have hindex : s.index d = i + ts.length := by
      unfold index
      omega
    refine ⟨by omega, s.index_le_length d, ?_⟩
    rwa [hindex, List.extract_eq_take_drop, hdrop, Nat.add_sub_cancel_left, List.take_left]
  · rintro ⟨hij, hj, h⟩
    refine ⟨s.cursorAt j, (hrun _).2 ⟨_, h, ?_⟩, index_cursorAt hj⟩
    have hsplit := List.take_append_drop (j - i) (s.tokens.drop i)
    rw [List.drop_drop, Nat.add_sub_cancel' hij, ← List.extract_eq_take_drop] at hsplit
    exact congrArg (Cursor.mk · s.finish) hsplit.symm

/-- Expressions are read by their grammar: at every index, what is read and where the reading stops is what the tokens
derive, and they derive at most one expression from there. -/
theorem expression_reads_grammar (s : TokenStream) (i : Nat) :
    (∀ j e, s.ReadsExpr i j e ↔ s.HasExpr i j e) ∧
      ∀ j j' e e', s.HasExpr i j e → s.HasExpr i j' e' → j = j' ∧ e = e' := by
  refine ⟨fun _ _ => readsExpr_iff, fun j j' e e' h h' => ?_⟩
  obtain ⟨d, hrun, rfl⟩ := readsExpr_iff.2 h
  obtain ⟨d', hrun', rfl⟩ := readsExpr_iff.2 h'
  rw [hrun] at hrun'
  cases hrun'
  exact ⟨rfl, rfl⟩

/-- Behind a string literal the word `to` goes on with a period, even where a field of that name would be an object;
a comma keeps the two apart. -/
example : ["\x7b a = \"x\" to = \"y\" \x7d", "\x7b a = \"x\", to = \"y\" \x7d"].map (fun source =>
    (tokenize source).toOption.map fun s => (expression (s.cursorAt 0)).1.toOption.isSome) =
      [some false, some true] := by
  cbv

end TokenStream

end MediaLanguage

import MediaLanguage.Token.Lexer

/-!
# Reading scripts

A script is read into pieces: the characters of its code, and one piece for each literal and each comment, whatever
these hold. Scripts with the same pieces have the same words, signs and statements outside literals and comments.

A `Lexis` says how a language marks comments and how a quote stands in a literal. Texts are put together from parts
that can be read one by one: `Lexis.Spells` says what a part reads as wherever it stands, and `Lexis.Alike` that two
parts read as the same.
-/

namespace MediaLanguage

/-- The lexical rules of a script. Literals stand between single quotes. -/
structure Lexis where
  /-- Two of these start a comment, which ends with the line. -/
  mark : Char
  /-- Whether two characters of a literal stand for one; the first of them does not end the literal. -/
  pairs : Char → Char → Bool
  dash_or_slash : mark = '-' ∨ mark = '/'
  /-- A quote stands for one only with another quote. -/
  pairs_quote : ∀ c, pairs '\'' c → c = '\''

/-- Whether a character ends a line. -/
def isLineBreak (c : Char) : Bool :=
  c == '\n' || c == '\r'

/-- The text stands on one line. -/
def OneLine (s : String) : Prop :=
  ∀ c ∈ s.toList, isLineBreak c = false

instance (s : String) : Decidable (OneLine s) :=
  List.decidableBAll (fun c => isLineBreak c = false) s.toList

namespace Lexis

/-- What a script is read into. -/
inductive Piece where
  /-- A character outside literals and comments. -/
  | code (c : Char)
  | literal
  | comment
deriving DecidableEq

/-- What a reader of a script is in. -/
inductive Mode where
  | code
  | literal
  | comment

/-- The pieces of a text that starts in a mode. -/
def read (L : Lexis) : Mode → List Char → List Piece
  | _, [] => []
  | .code, c :: cs =>
    if c = '\'' then .literal :: L.read .literal cs
    else if c = L.mark ∧ cs.head? = some L.mark then .comment :: L.read .comment cs
    else .code c :: L.read .code cs
  | .literal, [_] => []
  | .literal, c :: d :: cs =>
    if L.pairs c d then L.read .literal cs
    else if c = '\'' then L.read .code (d :: cs)
    else L.read .literal (d :: cs)
  | .comment, c :: cs => if isLineBreak c then .code c :: L.read .code cs else L.read .comment cs

/-- The pieces of a script. -/
def pieces (L : Lexis) (s : String) : List Piece :=
  L.read .code s.toList

/-- A mark is neither a quote, nor a part of a word, nor the end of a line. -/
theorem mark_cases (L : Lexis) : L.mark ≠ '\'' ∧ isNameChar L.mark = false ∧ isLineBreak L.mark = false := by
  obtain h | h := L.dash_or_slash <;> rw [h] <;> decide

/-! ## Plain text -/

/-- Whether characters are code wherever they stand: there is no quote among them, no two marks follow each other, and
the last is no mark. -/
def isPlain (L : Lexis) : List Char → Bool
  | [] => true
  | [c] => c != '\'' && c != L.mark
  | c :: d :: cs => c != '\'' && (c != L.mark || d != L.mark) && L.isPlain (d :: cs)

/-- The text is code wherever it stands. -/
def Plain (L : Lexis) (s : String) : Prop :=
  L.isPlain s.toList

instance (L : Lexis) (s : String) : Decidable (L.Plain s) :=
  inferInstanceAs (Decidable (L.isPlain s.toList = true))

section Plain

variable {L : Lexis} {c d : Char} {cs ds rest : List Char} {s t : String}

/-- A character in front of plain text that does not start with a mark. -/
theorem isPlain_cons (hc : c ≠ '\'') (hd : d ≠ L.mark) (h : L.isPlain (d :: ds)) : L.isPlain (c :: d :: ds) := by
  simp [isPlain, hc, hd, h]

/-- Characters that are neither quotes nor marks are plain. -/
theorem isPlain_of_forall (h : ∀ c ∈ cs, c ≠ '\'' ∧ c ≠ L.mark) : L.isPlain cs := by
  induction cs with
  | nil => rfl
  | cons c cs ih =>
    have hc := h c List.mem_cons_self
    have hcs := ih fun d hd => h d (List.mem_cons_of_mem c hd)
    cases cs with
    | nil => simp [isPlain, hc]
    | cons d ds => exact isPlain_cons hc.1 (h d (by simp)).2 hcs

/-- Words are plain. -/
theorem isPlain_of_word (h : ∀ c ∈ cs, isNameChar c) : L.isPlain cs := by
  apply isPlain_of_forall
  intro c hc
  constructor
  · rintro rfl
    exact absurd (h '\'' hc) (by decide)
  · rintro rfl
    exact absurd (h L.mark hc) (by simp [L.mark_cases])

/-- Plain text followed by plain text. -/
theorem isPlain_append (h : L.isPlain cs) (h' : L.isPlain ds) : L.isPlain (cs ++ ds) := by
  fun_induction isPlain L cs with
  | case1 => exact h'
  | case2 c =>
    cases ds with
    | nil => simpa [isPlain] using h
    | cons d ds =>
      simp only [Bool.and_eq_true, bne_iff_ne] at h
      simp [isPlain, h, h']
  | case3 c d cs ih =>
    simp only [Bool.and_eq_true] at h
    simp only [List.cons_append, isPlain, Bool.and_eq_true]
    exact ⟨h.1, ih h.2⟩

/-- Plain text is read as its characters. -/
theorem read_plain (h : L.isPlain cs) : L.read .code (cs ++ rest) = cs.map .code ++ L.read .code rest := by
  fun_induction isPlain L cs with
  | case1 => rfl
  | case2 c =>
    simp only [Bool.and_eq_true, bne_iff_ne] at h
    simp [read, h]
  | case3 c d cs ih =>
    simp only [Bool.and_eq_true, Bool.or_eq_true, bne_iff_ne] at h
    obtain ⟨⟨hc, hmark⟩, h⟩ := h
    have hno : ¬(c = L.mark ∧ d = L.mark) := by
      rintro ⟨rfl, rfl⟩
      simp at hmark
    have hread := ih h
    rw [List.cons_append] at hread
    simp only [List.cons_append, read, hc, List.head?_cons, Option.some.injEq, hno, if_false, List.map_cons]
    rw [← read, hread]
    rfl

theorem Plain.append (h : L.Plain s) (h' : L.Plain t) : L.Plain (s ++ t) := by
  rw [Plain, String.toList_append]
  exact isPlain_append h h'

end Plain

/-! ## Parts of a script -/

/-- Anything may follow. -/
def Anything (_ : List Char) : Prop :=
  True

/-- Anything but a quote may follow, which would be a part of the literal in front of it. -/
def Unquoted (rest : List Char) : Prop :=
  rest.head? ≠ some '\''

/-- The text reads as the pieces, in front of any text that may follow it. -/
def Spells (L : Lexis) (follow : List Char → Prop) (s : String) (ps : List Piece) : Prop :=
  ∀ rest, follow rest → L.read .code (s.toList ++ rest) = ps ++ L.read .code rest

/-- The texts read as the same pieces, in front of any text that may follow them. -/
def Alike (L : Lexis) (follow : List Char → Prop) (s t : String) : Prop :=
  ∃ ps, L.Spells follow s ps ∧ L.Spells follow t ps

section Spells

variable {L : Lexis} {follow : List Char → Prop} {s t : String} {ps qs : List Piece}

theorem Spells.append (h : L.Spells Anything s ps) (h' : L.Spells follow t qs) :
    L.Spells follow (s ++ t) (ps ++ qs) := by
  intro rest hrest
  rw [String.toList_append, List.append_assoc, h _ trivial, h' _ hrest, List.append_assoc]

theorem Spells.of_plain (h : L.Plain s) : L.Spells follow s (s.toList.map .code) :=
  fun _ _ => read_plain h

/-- What ends in a literal, with code after it. -/
theorem Spells.append_code (h : L.Spells Unquoted s ps) (ht : L.Plain t) (hne : t ≠ "") :
    L.Spells Anything (s ++ t) (ps ++ t.toList.map .code) := by
  intro rest _
  have hunquoted : Unquoted (t.toList ++ rest) := by
    cases hcs : t.toList with
    | nil => exact absurd (String.toList_eq_nil_iff.1 hcs) hne
    | cons c cs =>
      rw [Plain, hcs] at ht
      have hc : c ≠ '\'' := by
        cases cs <;> simp_all [isPlain]
      simpa [Unquoted] using hc
  rw [String.toList_append, List.append_assoc, h _ hunquoted, read_plain ht, List.append_assoc]

/-- A comment up to the end of the line. -/
theorem read_comment {cs : List Char} (rest : List Char) (h : ∀ c ∈ cs, isLineBreak c = false) :
    L.read .comment (cs ++ '\n' :: rest) = .code '\n' :: L.read .code rest := by
  induction cs with
  | nil => rfl
  | cons c cs ih =>
    have hc := h c List.mem_cons_self
    rw [List.cons_append, read, hc]
    exact ih fun d hd => h d (List.mem_cons_of_mem c hd)

/-- A comment that ends a line. -/
theorem Spells.comment {opening : String} (hopening : opening.toList = [L.mark, L.mark, ' ']) (hs : OneLine s) :
    L.Spells Anything (opening ++ s ++ "\n") [.comment, .code '\n'] := by
  intro rest _
  obtain ⟨hquote, -, hbreak⟩ := L.mark_cases
  have htext : ∀ c ∈ L.mark :: ' ' :: s.toList, isLineBreak c = false := by
    simp only [List.forall_mem_cons]
    exact ⟨hbreak, by decide, hs⟩
  calc L.read .code ((opening ++ s ++ "\n").toList ++ rest)
      = L.read .code (L.mark :: (L.mark :: ' ' :: s.toList ++ '\n' :: rest)) := by simp [hopening]
    _ = .comment :: L.read .comment (L.mark :: ' ' :: s.toList ++ '\n' :: rest) := by simp [read, hquote]
    _ = [.comment, .code '\n'] ++ L.read .code rest := by
      rw [read_comment rest htext]
      rfl

/-- A quote ends a literal, unless another quote follows. -/
theorem read_closing {rest : List Char} (h : Unquoted rest) : L.read .literal ('\'' :: rest) = L.read .code rest := by
  cases rest with
  | nil => rfl
  | cons c cs =>
    have hc : L.pairs '\'' c = false := by
      apply Bool.eq_false_iff.2
      intro hpairs
      exact h (congrArg some (L.pairs_quote c hpairs))
    simp [read, hc]

/-- The characters that a character is written as do not end a literal. -/
def Escapes (L : Lexis) (escape : Char → List Char) : Prop :=
  ∀ c rest, rest ≠ [] → L.read .literal (escape c ++ rest) = L.read .literal rest

/-- A literal of escaped characters. -/
theorem Spells.literal {escape : Char → List Char} (hescape : L.Escapes escape) (cs : List Char) :
    L.Spells Unquoted (String.ofList ('\'' :: cs.flatMap escape ++ ['\''])) [.literal] := by
  intro rest hrest
  have hread : L.read .literal (cs.flatMap escape ++ '\'' :: rest) = L.read .code rest := by
    induction cs with
    | nil => exact read_closing hrest
    | cons c cs ih => rw [List.flatMap_cons, List.append_assoc, hescape c _ (by simp), ih]
  rw [String.toList_ofList, List.append_assoc, List.cons_append, List.singleton_append]
  simp [read, hread]

end Spells

/-! ## Texts that read alike -/

section Alike

variable {L : Lexis} {follow : List Char → Prop} {s t u v : String}

/-- Plain text reads like itself. -/
theorem Alike.of_plain (h : L.Plain s) : L.Alike follow s s :=
  ⟨_, .of_plain h, .of_plain h⟩

theorem Alike.append (h : L.Alike Anything s t) (h' : L.Alike follow u v) : L.Alike follow (s ++ u) (t ++ v) := by
  obtain ⟨ps, hs, ht⟩ := h
  obtain ⟨qs, hu, hv⟩ := h'
  exact ⟨ps ++ qs, hs.append hu, ht.append hv⟩

/-- What ends in literals, with the same code after them. -/
theorem Alike.append_code (h : L.Alike Unquoted s t) (hu : L.Plain u) (hne : u ≠ "") :
    L.Alike Anything (s ++ u) (t ++ u) := by
  obtain ⟨ps, hs, ht⟩ := h
  exact ⟨_, hs.append_code hu hne, ht.append_code hu hne⟩

/-- What may stand anywhere may stand in front of what is no quote. -/
theorem Alike.unquoted (h : L.Alike Anything s t) : L.Alike Unquoted s t := by
  obtain ⟨ps, hs, ht⟩ := h
  exact ⟨ps, fun rest _ => hs rest trivial, fun rest _ => ht rest trivial⟩

/-- Any two literals. -/
theorem Alike.literal {escape : Char → List Char} (hescape : L.Escapes escape) (cs ds : List Char) :
    L.Alike Unquoted (String.ofList ('\'' :: cs.flatMap escape ++ ['\'']))
      (String.ofList ('\'' :: ds.flatMap escape ++ ['\''])) :=
  ⟨_, .literal hescape cs, .literal hescape ds⟩

/-- Any two comments. -/
theorem Alike.comment {opening : String} (hopening : opening.toList = [L.mark, L.mark, ' ']) (hs : OneLine s)
    (ht : OneLine t) : L.Alike Anything (opening ++ s ++ "\n") (opening ++ t ++ "\n") :=
  ⟨_, .comment hopening hs, .comment hopening ht⟩

/-- Parts that read alike, one after the other. -/
theorem Alike.join {α : Type} {f g : α → String} {xs : List α} (h : ∀ x ∈ xs, L.Alike Anything (f x) (g x)) :
    L.Alike Anything (String.join (xs.map f)) (String.join (xs.map g)) := by
  induction xs with
  | nil => exact .of_plain rfl
  | cons x xs ih =>
    obtain ⟨hx, hxs⟩ := List.forall_mem_cons.1 h
    rw [List.map_cons, List.map_cons, String.join_cons, String.join_cons]
    exact hx.append (ih hxs)

/-- Parts that read alike, with the same code between them. -/
theorem Alike.intercalate {α : Type} {f g : α → String} {xs : List α} {between : String} (hplain : L.Plain between)
    (hne : between ≠ "") (h : ∀ x ∈ xs, L.Alike Unquoted (f x) (g x)) :
    L.Alike Unquoted (between.intercalate (xs.map f)) (between.intercalate (xs.map g)) := by
  induction xs with
  | nil => exact .of_plain rfl
  | cons x xs ih =>
    obtain ⟨hx, hxs⟩ := List.forall_mem_cons.1 h
    cases xs with
    | nil => simpa using hx
    | cons y ys =>
      simp only [List.map_cons, String.intercalate_cons_cons] at ih ⊢
      exact (hx.append_code hplain hne).append (ih hxs)

/-- Scripts that read alike have the same pieces. -/
theorem Alike.pieces_eq (h : L.Alike Anything s t) : L.pieces s = L.pieces t := by
  obtain ⟨ps, hs, ht⟩ := h
  have hs := hs [] trivial
  have ht := ht [] trivial
  rw [List.append_nil] at hs ht
  rw [pieces, pieces, hs, ht]

end Alike

end Lexis

end MediaLanguage

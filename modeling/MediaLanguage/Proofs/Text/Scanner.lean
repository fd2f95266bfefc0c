import MediaLanguage.Proofs.Text.Plain

/-!
# Scanning scripts

A script is scanned as the program that runs it does. A scanner goes through the characters and gives words, delimiters
and literals; a comment ends with its line. Statements end with a semicolon. The rules of a language are its `Dialect`.

* `Dialect.run_append`: what is read in a text is what is read in its parts, one after the other.
* `Dialect.Spelled` and `Dialect.Reads`: what a part of a statement is read as, on its own or in front of a blank or
  delimiter.
* `Dialect.reads_word`, `Dialect.reads_literal`: words are read as they are, and literals as their texts.
* `Dialect.statements_join`, `Dialect.readAll_join`: in texts one behind the other their statements are read.
-/

namespace MediaLanguage

/-! ## Words, delimiters and literals -/

/-- What a script is read into. -/
inductive Atom where
  | word (text : String)
  | delimiter (c : Char)
  | literal (text : String)
deriving DecidableEq

/-- The characters that separate words and say nothing else. -/
def blanks : List Char :=
  [' ', '\n', '\t', '\r']

/-- Lexical rules, with the characters that are words of their own. -/
structure Dialect extends Lexis where
  delimiters : List Char
  /-- In a literal this stands in front of a character that is meant as it is, if the two are a pair. -/
  shield : Char
  delimiters_apart : ∀ c ∈ delimiters, c ≠ '\'' ∧ c ≠ mark ∧ c ∉ blanks ∧ isNameChar c = false ∧ isSign c = false

/-- What the scanner is in. -/
inductive Scanner where
  /-- In code, after some characters of a word. -/
  | code (word : List Char)
  /-- In code, after a mark, which may start a comment. -/
  | mark (word : List Char)
  /-- In a literal, after some of its text. -/
  | literal (text : List Char)
  /-- In a literal, after a character that ends it or belongs to the next one. -/
  | held (text : List Char) (c : Char)
  | comment
deriving DecidableEq

abbrev Scanner.start : Scanner :=
  .code []

/-- Whether the scanner is in code, and not after a mark, or after the quote that ends a literal. -/
def Scanner.isWhole : Scanner → Bool
  | .code _ => true
  | .held _ c => c == '\''
  | _ => false

def wordAtoms (word : List Char) : List Atom :=
  if word.isEmpty then [] else [.word (String.ofList word)]

/-! ## Lists -/

/-- Parts with commas between them. -/
def listAtoms (items : List (List Atom)) : List Atom :=
  [Atom.delimiter ','].intercalate items

/-- The parts between commas. -/
def listed (as : List Atom) : List (List Atom) :=
  as.splitOn (.delimiter ',')

/-- The parts of a list that is not empty, if commas stand only between them. -/
theorem listed_listAtoms {items : List (List Atom)} (hne : items ≠ []) (h : ∀ as ∈ items, .delimiter ',' ∉ as) :
    listed (listAtoms items) = items :=
  List.splitOn_intercalate _ h hne

/-- What no item of a list holds is not in the list, but for the commas. -/
theorem not_mem_listAtoms {items : List (List Atom)} {a : Atom} (ha : a ≠ .delimiter ',')
    (h : ∀ as ∈ items, a ∉ as) : a ∉ listAtoms items := by
  induction items with
  | nil => simp [listAtoms]
  | cons as items ih =>
    obtain ⟨has, hitems⟩ := List.forall_mem_cons.1 h
    cases items with
    | nil => simpa [listAtoms] using has
    | cons bs items =>
      have hrest := ih hitems
      simp only [listAtoms, List.intercalate_cons_cons] at hrest ⊢
      simp [has, ha, hrest]

theorem mapM_map_eq_some {α β γ : Type} {part : α → β} {read : β → Option γ} {value : α → γ} {xs : List α}
    (h : ∀ x ∈ xs, read (part x) = some (value x)) : (xs.map part).mapM read = some (xs.map value) := by
  induction xs with
  | nil => rfl
  | cons x xs ih =>
    obtain ⟨hx, hxs⟩ := List.forall_mem_cons.1 h
    simp [List.mapM_cons, hx, ih hxs]

/-! ## Scanning -/

namespace Dialect

variable (D : Dialect)

def readCode (word : List Char) (c : Char) : List Atom × Scanner :=
  if c = '\'' then (wordAtoms word, .literal [])
  else if c = D.mark then ([], .mark word)
  else if c ∈ blanks then (wordAtoms word, .start)
  else if c ∈ D.delimiters then (wordAtoms word ++ [Atom.delimiter c], .start)
  else ([], .code (word ++ [c]))

/-- One character: what it ends, and what the scanner is in after it. -/
def step : Scanner → Char → List Atom × Scanner
  | .code word, c => D.readCode word c
  | .mark word, c => if c = D.mark then (wordAtoms word, .comment) else D.readCode (word ++ [D.mark]) c
  | .literal text, c => ([], if c = '\'' ∨ c = D.shield then .held text c else .literal (text ++ [c]))
  | .held text c, d =>
    if D.pairs c d then ([], .literal (text ++ [d]))
    else (.literal (String.ofList text) :: (D.readCode [] d).1, (D.readCode [] d).2)
  | .comment, c => ([], if isLineBreak c then .start else .comment)

/-- Some characters: what they end, and what the scanner is in after them. -/
def run (s : Scanner) : List Char → List Atom × Scanner
  | [] => ([], s)
  | c :: cs => ((D.step s c).1 ++ (run (D.step s c).2 cs).1, (run (D.step s c).2 cs).2)

/-- What ends with the text. A literal without its closing quote leaves the quote, which is no part of a statement. -/
def finish : Scanner → List Atom
  | .code word => wordAtoms word
  | .mark word => wordAtoms (word ++ [D.mark])
  | .literal _ => [.delimiter '\'']
  | .held text c => [if c = '\'' then .literal (String.ofList text) else .delimiter '\'']
  | .comment => []

/-- The words, delimiters and literals of a text. -/
def atoms (s : String) : List Atom :=
  (D.run .start s.toList).1 ++ D.finish (D.run .start s.toList).2

/-- The statements of a text. What follows the last semicolon is the last of them. -/
def statements (s : String) : List (List Atom) :=
  (D.atoms s).splitOn (.delimiter ';')

/-- What is read in the statements of a text, if the last of them is finished and each can be read. -/
def readAll {α : Type} (read : List Atom → Option α) (s : String) : Option (List α) :=
  if (D.statements s).getLast? = some [] then (D.statements s).dropLast.mapM read else none

/-! ## Parts of statements -/

/-- Whether a character ends a word or literal. -/
def isBreak (c : Char) : Bool :=
  (blanks ++ D.delimiters).contains c

def breakAtoms (c : Char) : List Atom :=
  if c ∈ D.delimiters then [.delimiter c] else []

/-- The text is read as the atoms, and nothing of it is left. -/
def Spelled (s : String) (as : List Atom) : Prop :=
  D.run .start s.toList = (as, .start)

instance (s : String) (as : List Atom) : Decidable (D.Spelled s as) :=
  inferInstanceAs (Decidable (_ = _))

/-- The text is read as the atoms in front of a blank or delimiter. -/
def Reads (s : String) (as : List Atom) : Prop :=
  ∀ c, D.isBreak c → D.run .start (s.toList ++ [c]) = (as ++ D.breakAtoms c, .start)

instance (s : String) (as : List Atom) : Decidable (D.Reads s as) :=
  have := List.decidableBAll (fun c => D.run .start (s.toList ++ [c]) = (as ++ D.breakAtoms c, .start))
    (blanks ++ D.delimiters)
  decidable_of_iff (∀ c ∈ blanks ++ D.delimiters, D.run .start (s.toList ++ [c]) = (as ++ D.breakAtoms c, .start))
    (forall_congr' fun _ => imp_congr_left List.contains_iff_mem.symm)

section Parts

variable {D} {s t : String} {as bs : List Atom} {c : Char}

theorem run_append (s : Scanner) (cs ds : List Char) :
    D.run s (cs ++ ds) = ((D.run s cs).1 ++ (D.run (D.run s cs).2 ds).1, (D.run (D.run s cs).2 ds).2) := by
  induction cs generalizing s with
  | nil => rfl
  | cons c cs ih => simp only [List.cons_append, run, ih, List.append_assoc]

/-- What ends a word or literal starts neither a literal nor a comment. -/
theorem ne_of_isBreak (h : D.isBreak c) : c ≠ '\'' ∧ c ≠ D.mark := by
  have hblanks : ∀ c ∈ blanks, c ≠ '\'' ∧ c ≠ '-' ∧ c ≠ '/' := by simp [blanks]
  obtain h | h := List.mem_append.1 (List.contains_iff_mem.1 h)
  · obtain ⟨hquote, hdash, hslash⟩ := hblanks c h
    obtain hmark | hmark := D.dash_or_slash
    · exact ⟨hquote, hmark ▸ hdash⟩
    · exact ⟨hquote, hmark ▸ hslash⟩
  · exact ⟨(D.delimiters_apart c h).1, (D.delimiters_apart c h).2.1⟩

/-- What follows a literal does not belong to it. -/
theorem pairs_break (h : D.isBreak c) : D.pairs '\'' c = false := by
  rw [Bool.eq_false_iff]
  exact fun hpairs => (ne_of_isBreak h).1 (D.pairs_quote c hpairs)

theorem readCode_break (h : D.isBreak c) (word : List Char) :
    D.readCode word c = (wordAtoms word ++ D.breakAtoms c, .start) := by
  obtain ⟨hquote, hmark⟩ := ne_of_isBreak h
  unfold readCode breakAtoms
  rw [if_neg hquote, if_neg hmark]
  by_cases hblank : c ∈ blanks
  · have hno : c ∉ D.delimiters := fun hmem => (D.delimiters_apart c hmem).2.2.1 hblank
    rw [if_pos hblank, if_neg hno, List.append_nil]
  · have hdelimiter : c ∈ D.delimiters := (List.mem_append.1 (List.contains_iff_mem.1 h)).resolve_left hblank
    rw [if_neg hblank, if_pos hdelimiter, if_pos hdelimiter]

theorem atoms_of_spelled (h : D.Spelled s as) : D.atoms s = as := by
  rw [atoms, h]
  simp [finish, wordAtoms]

theorem Spelled.append (h : D.Spelled s as) (h' : D.Spelled t bs) : D.Spelled (s ++ t) (as ++ bs) := by
  rw [Spelled, String.toList_append, run_append, h, h']

theorem Reads.append (h : D.Spelled s as) (h' : D.Reads t bs) : D.Reads (s ++ t) (as ++ bs) := by
  intro c hc
  rw [String.toList_append, List.append_assoc, run_append, h, h' c hc, List.append_assoc]

/-- What is spelled on its own is read in front of anything. -/
theorem Spelled.reads (h : D.Spelled s as) : D.Reads s as := by
  intro c hc
  rw [run_append, h]
  simp [run, step, readCode_break hc, wordAtoms]

/-- What leaves nothing open is read in front of a blank or delimiter as it is read by itself. -/
theorem reads_of_isWhole (h : (D.run .start s.toList).2.isWhole) : D.Reads s (D.atoms s) := by
  intro c hc
  rw [run_append, atoms]
  cases hend : (D.run .start s.toList).2 with
  | code word => simp [run, step, readCode_break hc, finish]
  | held text d =>
    rw [hend, Scanner.isWhole, beq_iff_eq] at h
    subst h
    simp [run, step, pairs_break hc, readCode_break hc, finish, wordAtoms]
  | mark | literal | comment =>
    rw [hend] at h
    cases h

/-- A text in front of one that starts with a blank or delimiter. -/
theorem Reads.before (h : D.Reads s as) {cs : List Char} (ht : t.toList = c :: cs) (hc : D.isBreak c)
    (h' : D.Spelled t bs) : D.Spelled (s ++ t) (as ++ bs) := by
  -- the scanner is where it starts after the first character of `t`, with `s` in front of it or without
  have hfirst : bs = D.breakAtoms c ++ (D.run .start cs).1 ∧ (D.run .start cs).2 = .start := by
    rw [Spelled, ht, run, step, readCode_break hc] at h'
    obtain ⟨hbs, hend⟩ := Prod.mk.inj h'
    exact ⟨by simpa [wordAtoms] using hbs.symm, hend⟩
  obtain ⟨rfl, hend⟩ := hfirst
  have hsplit : s.toList ++ c :: cs = (s.toList ++ [c]) ++ cs := by simp
  rw [Spelled, String.toList_append, ht, hsplit, run_append, h c hc, hend, List.append_assoc]

/-- A text and one behind it that starts with a blank or delimiter. -/
theorem Reads.followed (h : D.Reads s as) {cs : List Char} (ht : t.toList = c :: cs) (hc : D.isBreak c)
    (h' : D.Reads t bs) : D.Reads (s ++ t) (as ++ bs) := by
  intro d hd
  have hbehind : D.Spelled (String.ofList (t.toList ++ [d])) (bs ++ D.breakAtoms d) := by
    rw [Spelled, String.toList_ofList]
    exact h' d hd
  have hwhole := h.before (by rw [String.toList_ofList, ht, List.cons_append]) hc hbehind
  rw [Spelled, String.toList_append, String.toList_ofList] at hwhole
  rw [String.toList_append, List.append_assoc, hwhole, List.append_assoc]

/-! ## Words -/

/-- A character of a word or a sign goes on with a word, unless it is a mark. -/
theorem step_code (hquote : c ≠ '\'') (hblank : c ∉ blanks) (hc : isNameChar c ∨ isSign c) (word : List Char) :
    D.step (.code word) c = if c = D.mark then ([], .mark word) else ([], .code (word ++ [c])) := by
  have hdelimiter : c ∉ D.delimiters := by
    intro hmem
    obtain ⟨-, -, -, hname, hsign⟩ := D.delimiters_apart c hmem
    simp [hname, hsign] at hc
  simp [step, readCode, hquote, hblank, hdelimiter]

/-- A character of a word is no mark. -/
theorem ne_mark_of_isNameChar (hc : isNameChar c) : c ≠ D.mark := by
  rintro rfl
  exact absurd hc (by simp [D.mark_cases.2.1])

theorem step_code_of_isNameChar (hc : isNameChar c) (word : List Char) :
    D.step (.code word) c = ([], .code (word ++ [c])) := by
  obtain ⟨hquote, hblank⟩ := forall_isNameChar (P := fun c => c ≠ '\'' ∧ c ∉ blanks) (by decide) hc
  rw [step_code hquote hblank (.inl hc), if_neg (ne_mark_of_isNameChar hc)]

/-- Characters of words, and signs in front of them, go on with a word. -/
theorem run_signed {cs : List Char} (h : isSigned cs) (word : List Char) :
    D.run (.code word) cs = ([], .code (word ++ cs)) := by
  fun_induction isSigned cs generalizing word with
  | case1 => simp [run]
  | case2 c => simp [run, step_code_of_isNameChar h]
  | case3 c d cs ih =>
    simp only [Bool.and_eq_true, Bool.or_eq_true] at h
    obtain ⟨hc | ⟨hsign, hd⟩, hcs⟩ := h
    · rw [run, step_code_of_isNameChar hc, ih hcs]
      simp
    · have hfree : c ≠ '\'' ∧ c ∉ blanks := by
        simp only [isSign, Bool.or_eq_true, beq_iff_eq] at hsign
        obtain rfl | rfl := hsign <;> decide
      rw [run, step_code hfree.1 hfree.2 (.inr hsign)]
      split
      · -- a mark with no mark after it is a part of the word
        next hc =>
        have hgone : D.run (.mark word) (d :: cs) = D.run (.code (word ++ [D.mark])) (d :: cs) := by
          simp [run, step, ne_mark_of_isNameChar hd]
        rw [hgone, ih hcs, hc]
        simp
      · rw [ih hcs]
        simp

theorem reads_word (h : isSigned s.toList) (hne : s ≠ "") : D.Reads s [.word s] := by
  intro c hc
  have hword : wordAtoms s.toList = [.word s] := by
    simp [wordAtoms, hne]
  rw [run_append, run_signed h]
  simp [run, step, readCode_break hc, hword]

theorem reads_name (h : IsName s) : D.Reads s [.word s] :=
  reads_word (isSigned_of_word h.2) h.1

theorem reads_numeral (h : IsNumeral s) : D.Reads s [.word s] :=
  reads_word h.signed h.ne_empty

/-! ## Literals and comments -/

/-- The characters that a character is written as in a literal. -/
def Escapes (D : Dialect) (escape : Char → List Char) : Prop :=
  ∀ c, escape c = [c] ∧ c ≠ '\'' ∧ c ≠ D.shield ∨ escape c = [D.shield, c] ∧ D.pairs D.shield c

/-- The text of a literal, with its characters as they are written. -/
theorem run_escape {escape : Char → List Char} (h : D.Escapes escape) (cs text : List Char) :
    D.run (.literal text) (cs.flatMap escape) = ([], .literal (text ++ cs)) := by
  induction cs generalizing text with
  | nil => simp [run]
  | cons c cs ih =>
    rw [List.flatMap_cons, run_append]
    obtain ⟨hc, hquote, hshield⟩ | ⟨hc, hpairs⟩ := h c
    · simp [hc, run, step, hquote, hshield, ih]
    · simp [hc, run, step, hpairs, ih]

/-- A literal is read as its text, whatever that holds. -/
theorem reads_literal {escape : Char → List Char} (h : D.Escapes escape) (s : String) :
    D.Reads (String.ofList ('\'' :: s.toList.flatMap escape ++ ['\''])) [.literal s] := by
  intro c hc
  -- a quote ends the literal only if no quote follows it, so the character behind the literal belongs to the reading
  have hopen : D.run .start ['\''] = ([], .literal []) := rfl
  have hclose : D.run (.literal s.toList) ['\'', c] = (.literal s :: D.breakAtoms c, .start) := by
    simp [run, step, pairs_break hc, readCode_break hc, wordAtoms]
  have hsplit : ('\'' :: s.toList.flatMap escape ++ ['\'']) ++ [c] =
      ['\''] ++ (s.toList.flatMap escape ++ ['\'', c]) := by simp
  have hread : D.run (.literal []) (s.toList.flatMap escape ++ ['\'', c]) = (.literal s :: D.breakAtoms c, .start) := by
    rw [run_append, run_escape h, List.nil_append]
    exact hclose
  rw [String.toList_ofList, hsplit, run_append, hopen]
  exact hread

theorem run_comment {cs : List Char} (h : ∀ c ∈ cs, isLineBreak c = false) :
    D.run .comment (cs ++ ['\n']) = ([], .start) := by
  induction cs with
  | nil => rfl
  | cons c cs ih =>
    obtain ⟨hc, hcs⟩ := List.forall_mem_cons.1 h
    simp [run, step, hc, ih hcs]

/-- A comment on one line is read as nothing. -/
theorem spelled_comment {opening : String} (hopening : opening.toList = [D.mark, D.mark, ' ']) (h : OneLine s) :
    D.Spelled (opening ++ s ++ "\n") [] := by
  have hopen : D.run .start [D.mark, D.mark, ' '] = ([], .comment) := by
    have hblank : isLineBreak ' ' = false := rfl
    simp [run, step, readCode, D.mark_cases.1, wordAtoms, hblank]
  have hsplit : (opening ++ s ++ "\n").toList = [D.mark, D.mark, ' '] ++ (s.toList ++ ['\n']) := by simp [hopening]
  rw [Spelled, hsplit, run_append, hopen, run_comment h]
  rfl

/-- A list with commas is read item by item. -/
theorem reads_list {α : Type} {text : α → String} {as : α → List Atom} {xs : List α}
    (hcomma : D.isBreak ',' ∧ D.Spelled ", " [.delimiter ',']) (h : ∀ x ∈ xs, D.Reads (text x) (as x)) :
    D.Reads (String.intercalate ", " (xs.map text)) (listAtoms (xs.map as)) := by
  induction xs with
  | nil =>
    have hempty : D.Spelled "" [] := rfl
    exact hempty.reads
  | cons x xs ih =>
    obtain ⟨hx, hxs⟩ := List.forall_mem_cons.1 h
    cases xs with
    | nil => simpa [listAtoms] using hx
    | cons y ys =>
      have hrest := ih hxs
      simp only [listAtoms, List.map_cons, String.intercalate_cons_cons, List.intercalate_cons_cons] at hrest ⊢
      exact Reads.append (hx.before rfl hcomma.1 hcomma.2) hrest

/-! ## Statements -/

/-- Statements end where they end. -/
theorem splitOn_statements {parts : List (List Atom)} (h : ∀ as ∈ parts, .delimiter ';' ∉ as) :
    (parts.flatMap fun as => as ++ [Atom.delimiter ';']).splitOn (.delimiter ';') = parts ++ [[]] := by
  induction parts with
  | nil => rfl
  | cons as parts ih =>
    obtain ⟨has, hparts⟩ := List.forall_mem_cons.1 h
    have hno : ∀ a ∈ as, (a == .delimiter ';') = false := by
      intro a ha
      rw [beq_eq_false_iff_ne]
      rintro rfl
      exact has ha
    rw [List.flatMap_cons, List.append_assoc, List.singleton_append, List.splitOn,
      List.splitOnP_append_cons_of_forall_mem hno _ (by simp), List.cons_append]
    exact congrArg _ (ih hparts)

section Joined

variable {α β : Type} {render : α → String} {parts : α → Option (List Atom)} {read : List Atom → Option β}
  {value : α → Option β} {xs : List α}

/-- Texts one behind the other, each of which is read as a statement with its semicolon or as nothing. -/
theorem spelled_join
    (h : ∀ x ∈ xs, D.Spelled (render x) ((parts x).toList.flatMap fun as => as ++ [Atom.delimiter ';'])) :
    D.Spelled (String.join (xs.map render)) ((xs.filterMap parts).flatMap fun as => as ++ [Atom.delimiter ';']) := by
  induction xs with
  | nil => rfl
  | cons x xs ih =>
    obtain ⟨hx, hxs⟩ := List.forall_mem_cons.1 h
    have hparts : (x :: xs).filterMap parts = (parts x).toList ++ xs.filterMap parts := by
      cases has : parts x <;> simp [has]
    rw [List.map_cons, String.join_cons, hparts, List.flatMap_append]
    exact hx.append (ih hxs)

theorem statements_join
    (h : ∀ x ∈ xs, D.Spelled (render x) ((parts x).toList.flatMap fun as => as ++ [Atom.delimiter ';']))
    (hno : ∀ x ∈ xs, ∀ as ∈ parts x, .delimiter ';' ∉ as) :
    D.statements (String.join (xs.map render)) = xs.filterMap parts ++ [[]] := by
  rw [statements, atoms_of_spelled (spelled_join h), splitOn_statements]
  intro as has
  obtain ⟨x, hx, hsome⟩ := List.mem_filterMap.1 has
  exact hno x hx as hsome

/-- What is read in the statements is read in the whole text. -/
theorem readAll_join
    (h : ∀ x ∈ xs, D.Spelled (render x) ((parts x).toList.flatMap fun as => as ++ [Atom.delimiter ';']))
    (hno : ∀ x ∈ xs, ∀ as ∈ parts x, .delimiter ';' ∉ as)
    (hread : ∀ x ∈ xs, (parts x).map read = (value x).map some) :
    D.readAll read (String.join (xs.map render)) = some (xs.filterMap value) := by
  rw [readAll, statements_join h hno, if_pos (by simp), List.dropLast_concat]
  clear h hno
  induction xs with
  | nil => rfl
  | cons x xs ih =>
    obtain ⟨hx, hxs⟩ := List.forall_mem_cons.1 hread
    cases has : parts x with
    | none =>
      have hnone : value x = none := by simpa [has] using hx.symm
      rw [List.filterMap_cons_none has, List.filterMap_cons_none hnone, ih hxs]
    | some as =>
      rw [has, Option.map_some] at hx
      obtain ⟨v, hv, hsome⟩ := Option.map_eq_some_iff.1 hx.symm
      rw [List.filterMap_cons_some has, List.filterMap_cons_some hv, List.mapM_cons, ← hsome, ih hxs]
      rfl

end Joined

end Parts

end Dialect

end MediaLanguage

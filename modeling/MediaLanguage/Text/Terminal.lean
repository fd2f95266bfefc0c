import MediaLanguage.Text.Blank
import MediaLanguage.Text.Lines
import MediaLanguage.Text.Width

/-!
# Text for terminals

What a terminal shows of a text: controls that would disturb it are left out, a tab leads to the next multiple of
eight columns, and a line that is too wide goes on in the next. Lines break between words. A word that fits on no line
is either cut short, or goes on in the next line, and then breaks between clusters.

A text that need not be shown on a terminal keeps its controls, tabs and lines, but not the sequences of characters that
would steer one, such as those for colours (`printed`).
-/

namespace MediaLanguage.Text

/-- The columns of the terminal. -/
def terminalWidth : Nat := 4000

/-! ## Controls -/

/-- Controls that are left out: bell, backspace, vertical tab, form feed and carriage return. -/
def isDisturbing (c : Char) : Bool :=
  c.toNat == 7 || c.toNat == 8 || c.toNat == 11 || c.toNat == 12 || c.toNat == 13

/-- A text without disturbing controls. -/
def withoutControls (s : String) : String :=
  String.ofList (s.toList.filter fun c => !isDisturbing c)

/-! ## Sequences that steer a terminal -/

/-- Whether a character may stand between the opening and the last letter of a sequence. -/
def isParameter (c : Char) : Bool :=
  c.isDigit || c == ';' || c == '?'

/-- What follows a sequence at the front of a text: an escape and a bracket open it, and a letter ends it. -/
def afterSequence? : List Char → Option (List Char)
  | c :: '[' :: cs =>
    match decide (c.toNat = 0x1B), cs.dropWhile isParameter with
    | true, d :: rest => if d.isAlpha then some rest else none
    | _, _ => none
  | _ => none

/-- A sequence takes a piece off the front of a text. -/
theorem afterSequence?_length {cs rest : List Char} (h : afterSequence? cs = some rest) :
    rest.length < cs.length := by
  unfold afterSequence? at h
  split at h
  · split at h
    · next hd =>
      split at h
      · simp only [Option.some.injEq] at h
        have hlt := length_lt_of_dropWhile hd
        simp only [← h, List.length_cons]
        omega
      · cases h
    · cases h
  · cases h

/-- A text without the sequences that steer a terminal. -/
def withoutSequences (cs : List Char) : List Char :=
  match h : afterSequence? cs with
  | some rest =>
    have := afterSequence?_length h
    withoutSequences rest
  | none =>
    match cs with
    | [] => []
    | c :: rest => c :: withoutSequences rest
termination_by cs.length

/-- A text as it is printed where it need not be shown on a terminal. -/
def printed (text : String) : String :=
  String.ofList (withoutSequences text.toList)

/-! ## Tabs -/

/-- The columns between two tab stops. -/
def tabWidth : Nat := 8

/-- The fields of a line from a column on, in front of each but the first a tab: one space at least, and more up to
the next tab stop. -/
def alignFields (column : Nat) : List (List Char) → List Char
  | [] => []
  | [field] => field
  | field :: fields =>
    let text := field ++ [' ']
    let finish := column + width text
    let gap := (tabWidth - finish % tabWidth) % tabWidth
    text ++ List.replicate gap ' ' ++ alignFields (finish + gap) fields

/-- A line with spaces for its tabs. -/
def expandTabs (line : List Char) : List Char :=
  alignFields 0 (splitWhere (· == '\t') line)

/-! ## Wide lines -/

/-- The words of a line, each with the space after it; space at the front belongs to the first word. -/
def wordsFrom (inSpace : Bool) (word : List Char) : List Char → List (List Char)
  | [] => if word.isEmpty then [] else [word.reverse]
  | c :: cs =>
    if inSpace && !isBlank c then word.reverse :: wordsFrom false [c] cs
    else wordsFrom (inSpace || (isBlank c && word.any (!isBlank ·))) (c :: word) cs

/-- The words of a line. -/
def words (line : List Char) : List (List Char) :=
  wordsFrom false [] line

/-- What becomes of a word that fits on no line. -/
inductive Overflow where
  /-- It goes on in the next line. -/
  | fold
  /-- It is cut short, with three dots at its end. -/
  | ellipsis
deriving DecidableEq

/-- Clusters in pieces that are at most `limit` columns wide; `piece` is the first so far, and takes `used`. -/
def chopFrom (limit : Nat) (piece : List Char) (used : Nat) : List Cluster → List (List Char)
  | [] => [piece]
  | k :: ks =>
    if used + k.width ≤ limit || piece.isEmpty then chopFrom limit (piece ++ k.text) (used + k.width) ks
    else piece :: chopFrom limit k.text k.width ks

/-- A word in pieces that are at most `limit` columns wide. -/
def chop (limit : Nat) (word : List Char) : List (List Char) :=
  chopFrom limit [] 0 (clusters word)

/-- The lines of some words, of which the first stand on `line` already and take `used` columns. A word that does not
fit starts a line of its own. -/
def fillLines (o : Overflow) (limit : Nat) (line : List Char) (used : Nat) : List (List Char) → List (List Char)
  | [] => [line]
  | word :: rest =>
    let size := width (stripRight word)
    if used + size ≤ limit then fillLines o limit (line ++ word) (used + width word) rest
    else
      let before := if line.isEmpty then [] else [line]
      let pieces := if o = .fold ∧ limit < size then chop limit word else [word]
      let last := pieces.getLast?.getD []
      before ++ pieces.dropLast ++ fillLines o limit last (width last) rest

/-- A line without those of the blanks at its end that stand beyond `size` characters. -/
def dropBlanks (size : Nat) (line : List Char) : List Char :=
  let blanks := line.length - (stripRight line).length
  line.take (line.length - min blanks (line.length - size))

/-- The clusters that fit into `size` columns, and a space for half of one that does not. -/
def cropClusters (size : Nat) : List Cluster → List Char
  | [] => []
  | k :: ks => if k.width ≤ size then k.text ++ cropClusters (size - k.width) ks else List.replicate size ' '

/-- A line, cut short if it takes more than `size` columns. -/
def crop (o : Overflow) (size : Nat) (line : List Char) : List Char :=
  if width line ≤ size then line
  else
    match o with
    | .fold => cropClusters size (clusters line)
    | .ellipsis => cropClusters (size - 1) (clusters line) ++ ['…']

/-- A line as lines of at most `limit` columns. -/
def wrap (o : Overflow) (limit : Nat) (line : List Char) : List (List Char) :=
  (fillLines o limit [] 0 (words (expandTabs line))).map fun l => crop o limit (dropBlanks limit l)

/-- A text as a terminal shows it. -/
def shown (s : String) : String :=
  unlines (((splitLines (withoutControls s).toList).flatMap (wrap .fold terminalWidth)).map String.ofList)

end MediaLanguage.Text

import MediaLanguage.Toml.Value
import MediaLanguage.Text.Digit

/-!
# Strings, numbers and times

A reader takes the characters that are left and gives what it has read with the characters after it, or `none` if they
do not start with what it reads. No carriage return reaches a reader: line ends are line feeds.
-/

namespace MediaLanguage.Toml

/-- A reader of the front of a text. -/
abbrev Reader (α : Type) := List Char → Option (α × List Char)

/-! ## Characters -/

/-- A space or a tab. -/
def isSpace (c : Char) : Bool :=
  c == ' ' || c == '\t'

/-- A space, a tab or a line feed. -/
def isSpaceOrNewline (c : Char) : Bool :=
  isSpace c || c == '\n'

/-- Whether a character may stand for itself on a line: every character but the controls, of which the tab may. -/
def isPlain (c : Char) : Bool :=
  c == '\t' || !(c.toNat < 32 || c.toNat == 127)

/-- A certain character. -/
def exactly (c : Char) : Reader Unit
  | d :: cs => if c = d then some ((), cs) else none
  | [] => none

/-! ## Strings -/

/-- Items up to a mark. An item gives some characters, and has to take at least one. -/
def upTo (mark : List Char) (item : Reader (List Char)) (cs : List Char) : Option (List Char × List Char) :=
  if mark.isPrefixOf cs then some ([], cs.drop mark.length)
  else
    match item cs with
    | none => none
    | some (s, rest) =>
      if rest.length < cs.length then (upTo mark item rest).map fun (t, after) => (s ++ t, after) else none
termination_by cs.length

/-- A character that stands for itself. -/
def plainItem : Reader (List Char)
  | c :: cs => if isPlain c then some ([c], cs) else none
  | [] => none

/-- A character that stands for itself, or a line feed. -/
def plainOrNewlineItem : Reader (List Char)
  | '\n' :: cs => some (['\n'], cs)
  | cs => plainItem cs

/-- The value of a hexadecimal digit. -/
def hexDigit? (c : Char) : Option Nat :=
  if '0' ≤ c ∧ c ≤ '9' then some (c.toNat - '0'.toNat)
  else if 'a' ≤ c ∧ c ≤ 'f' then some (c.toNat - 'a'.toNat + 10)
  else if 'A' ≤ c ∧ c ≤ 'F' then some (c.toNat - 'A'.toNat + 10)
  else none

/-- The number that hexadecimal digits write. -/
def hexValue? (digits : List Char) : Option Nat :=
  digits.foldlM (fun n c => (hexDigit? c).map (16 * n + ·)) 0

/-- The character with a code point, if it is a character and no surrogate. -/
def charOf? (code : Nat) : Option Char :=
  if code < 0xD800 ∨ (0xDFFF < code ∧ code < 0x110000) then some (Char.ofNat code) else none

/-- A character by its code point in `count` hexadecimal digits. -/
def codeItem (count : Nat) : Reader (List Char) := fun cs =>
  if (cs.take count).length = count then
    ((hexValue? (cs.take count)).bind charOf?).map fun c => ([c], cs.drop count)
  else none

/-- The character that a letter after a backslash stands for. -/
def escape? : Char → Option Char
  | 'b' => some (Char.ofNat 8)
  | 't' => some '\t'
  | 'n' => some '\n'
  | 'f' => some (Char.ofNat 12)
  | 'r' => some '\r'
  | '"' => some '"'
  | '\\' => some '\\'
  | _ => none

/-- What may follow a backslash on one line. -/
def escapeItem : Reader (List Char)
  | 'u' :: cs => codeItem 4 cs
  | 'U' :: cs => codeItem 8 cs
  | c :: cs => (escape? c).map fun d => ([d], cs)
  | [] => none

/-- A character of a basic string. -/
def basicItem : Reader (List Char)
  | '\\' :: cs => escapeItem cs
  | cs => plainItem cs

/-- The end of a line after a backslash: all space up to the next character that is none is left out. -/
def foldedLine (cs : List Char) : Option (List Char × List Char) :=
  match cs.dropWhile isSpace with
  | '\n' :: rest => some ([], rest.dropWhile isSpaceOrNewline)
  | _ => none

/-- A character of a basic string of several lines. -/
def longBasicItem : Reader (List Char)
  | '\\' :: c :: cs => if isSpaceOrNewline c then foldedLine (c :: cs) else escapeItem (c :: cs)
  | '\\' :: [] => none
  | cs => plainOrNewlineItem cs

/-- Up to two more marks behind a string of several lines belong to it. -/
def extraMarks (mark : Char) : List Char → List Char × List Char
  | c :: d :: cs =>
    if c = mark then if d = mark then ([mark, mark], cs) else ([mark], d :: cs) else ([], c :: d :: cs)
  | [c] => if c = mark then ([mark], []) else ([], [c])
  | [] => ([], [])

/-- A string of several lines behind its opening marks; a line feed right behind them is left out. -/
def longString (mark : Char) (item : Reader (List Char)) (cs : List Char) : Option (String × List Char) :=
  let body :=
    match cs with
    | '\n' :: rest => rest
    | _ => cs
  (upTo [mark, mark, mark] item body).map fun (s, rest) =>
    let (extra, after) := extraMarks mark rest
    (String.ofList (s ++ extra), after)

/-- A string on one line behind its opening mark. -/
def shortString (mark : Char) (item : Reader (List Char)) (cs : List Char) : Option (String × List Char) :=
  (upTo [mark] item cs).map fun (s, rest) => (String.ofList s, rest)

/-- A string of any of the four forms. -/
def string? : Reader String
  | '"' :: '"' :: '"' :: cs => longString '"' longBasicItem cs
  | '"' :: cs => shortString '"' basicItem cs
  | '\'' :: '\'' :: '\'' :: cs => longString '\'' plainOrNewlineItem cs
  | '\'' :: cs => shortString '\'' plainItem cs
  | _ => none

/-! ## Dates and times -/

/-- A number of `count` digits from `low` to `high`. -/
def digitField (count low high : Nat) (cs : List Char) : Option (Nat × List Char) :=
  let digits := cs.take count
  if digits.length = count ∧ digits.all Char.isDigit then
    match Text.digitsValue? digits with
    | some n => if low ≤ n ∧ n ≤ high then some (n, cs.drop count) else none
    | none => none
  else none

/-- A fraction of a second, or nothing. -/
def afterFraction : List Char → List Char
  | '.' :: c :: cs => if c.isDigit then cs.dropWhile Char.isDigit else '.' :: c :: cs
  | cs => cs

/-- What follows a time of day. -/
def afterClock? (cs : List Char) : Option (List Char) := do
  let (_, cs) ← digitField 2 0 23 cs
  let (_, cs) ← exactly ':' cs
  let (_, cs) ← digitField 2 0 59 cs
  let (_, cs) ← exactly ':' cs
  let (_, cs) ← digitField 2 0 59 cs
  return afterFraction cs

/-- What follows hours and minutes. -/
def afterMinutes? (cs : List Char) : Option (List Char) := do
  let (_, cs) ← digitField 2 0 23 cs
  let (_, cs) ← exactly ':' cs
  let (_, cs) ← digitField 2 0 59 cs
  return cs

/-- What follows the distance of a time from universal time, if one is given. -/
def afterOffset (cs : List Char) : List Char :=
  match cs with
  | c :: rest =>
    if c = 'Z' ∨ c = 'z' then rest
    else if c = '+' ∨ c = '-' then (afterMinutes? rest).getD cs
    else cs
  | [] => []

/-- The number of days of a month. -/
def daysOf (year month : Nat) : Nat :=
  if month = 2 then if year % 4 = 0 ∧ (year % 100 ≠ 0 ∨ year % 400 = 0) then 29 else 28
  else if month = 4 ∨ month = 6 ∨ month = 9 ∨ month = 11 then 30
  else 31

/-- What follows a day of the calendar. -/
def afterDay? (cs : List Char) : Option (List Char) := do
  let (year, cs) ← digitField 4 1 9999 cs
  let (_, cs) ← exactly '-' cs
  let (month, cs) ← digitField 2 1 12 cs
  let (_, cs) ← exactly '-' cs
  let (day, cs) ← digitField 2 1 31 cs
  if day ≤ daysOf year month then return cs else none

/-- What follows a time of day after a day, if one is given. -/
def afterTime (cs : List Char) : List Char :=
  match cs with
  | c :: rest =>
    if c = 'T' ∨ c = 't' ∨ c = ' ' then ((afterClock? rest).map afterOffset).getD cs else cs
  | [] => []

/-- A date, a time of day, or both. -/
def time? : Reader Toml := fun cs =>
  let after := ((afterDay? cs).map afterTime).or (afterClock? cs)
  after.map fun rest => (.time (String.ofList (cs.take (cs.length - rest.length))), rest)

/-! ## Numbers -/

/-- Digits, with single underscores between them. -/
def digitRun (isDigit : Char → Bool) : List Char → List Char × List Char
  | '_' :: c :: cs =>
    if isDigit c then
      let (digits, rest) := digitRun isDigit cs
      (c :: digits, rest)
    else ([], '_' :: c :: cs)
  | c :: cs =>
    if isDigit c then
      let (digits, rest) := digitRun isDigit cs
      (c :: digits, rest)
    else ([], c :: cs)
  | [] => ([], [])

/-- Digits, at least one, with single underscores between them. -/
def digits? (isDigit : Char → Bool) (cs : List Char) : Option (List Char × List Char) :=
  match cs with
  | c :: _ => if isDigit c then some (digitRun isDigit cs) else none
  | [] => none

/-- An integer in base sixteen, eight or two, behind its mark. -/
def basedInteger? (base : Nat) (cs : List Char) : Option (Toml × List Char) := do
  let (digits, rest) ← digits? (fun c => (hexDigit? c).any (· < base)) cs
  let n := digits.foldl (fun n c => base * n + (hexDigit? c).getD 0) 0
  return (.integer n, rest)

/-- The part in front of the point: a zero, or digits that do not start with one. -/
def wholePart? : Reader (List Char)
  | '0' :: cs => some (['0'], cs)
  | cs => digits? Char.isDigit cs

/-- The part behind the point, if there is one. -/
def fractionPart (cs : List Char) : Option (List Char) × List Char :=
  match cs with
  | '.' :: rest =>
    match digits? Char.isDigit rest with
    | some (digits, after) => (some digits, after)
    | none => (none, cs)
  | _ => (none, cs)

/-- A sign, if there is one: whether it is a minus. -/
def signPart : List Char → Bool × List Char
  | '+' :: cs => (false, cs)
  | '-' :: cs => (true, cs)
  | cs => (false, cs)

/-- The exponent, if there is one. -/
def exponentPart (cs : List Char) : Option Int × List Char :=
  match cs with
  | c :: rest =>
    if c = 'e' ∨ c = 'E' then
      let (negative, rest) := signPart rest
      match digits? Char.isDigit rest with
      | some (digits, after) =>
        let n : Int := ((Text.digitsValue? digits).getD 0 : Nat)
        (some (if negative then -n else n), after)
      | none => (none, cs)
    else (none, cs)
  | [] => (none, [])

/-- A decimal number: an integer unless it has a fraction or an exponent. -/
def decimal? : Reader Toml := fun cs => do
  let (negative, cs) := signPart cs
  let (whole, cs) ← wholePart? cs
  let (fraction, cs) := fractionPart cs
  let (exponent, cs) := exponentPart cs
  let n ← Text.digitsValue? (whole ++ fraction.getD [])
  if fraction.isNone ∧ exponent.isNone then return (.integer (if negative then -(n : Int) else n), cs)
  else return (.float (Number.ofDecimal negative n (exponent.getD 0 - (fraction.getD []).length)), cs)

/-- An infinity or not-a-number. -/
def special? : Reader Toml := fun cs =>
  match signPart cs with
  | (negative, 'i' :: 'n' :: 'f' :: rest) => some (.float (.infinite negative), rest)
  | (_, 'n' :: 'a' :: 'n' :: rest) => some (.float .nan, rest)
  | _ => none

/-- A number. -/
def number? : Reader Toml := fun cs =>
  let based :=
    match cs with
    | '0' :: 'x' :: rest => basedInteger? 16 rest
    | '0' :: 'o' :: rest => basedInteger? 8 rest
    | '0' :: 'b' :: rest => basedInteger? 2 rest
    | _ => none
  (based.or (decimal? cs)).or (special? cs)

/-- A truth value. -/
def boolean? : Reader Toml
  | 't' :: 'r' :: 'u' :: 'e' :: cs => some (.boolean true, cs)
  | 'f' :: 'a' :: 'l' :: 's' :: 'e' :: cs => some (.boolean false, cs)
  | _ => none

/-- A value without values inside it. -/
def scalar? : Reader Toml := fun cs =>
  match cs with
  | '"' :: _ | '\'' :: _ => (string? cs).map fun (s, rest) => (.string s, rest)
  | _ => ((boolean? cs).or (time? cs)).or (number? cs)

end MediaLanguage.Toml

import MediaLanguage.Position

/-!
# Where a text leads

* `Position.after` reads the position behind a text off the text: line breaks give the line, the characters behind
  the last line break the column, and the UTF-8 encoding the offset.
* `advance_start`: walking over a text from the start character by character ends there.
* `Position.behind` carries a position of one text over to the text with another one, and a line break, in front of
  it; walking commutes with it (`behind_advance`).
-/

namespace MediaLanguage.Position

/-! ## The position behind a text -/

/-- The position behind `before`, by counting: lines and columns from one, bytes from zero. -/
def after (before : List Char) : Position where
  line := 1 + before.count '\n'
  column := 1 + (before.reverse.takeWhile (· != '\n')).length
  offset := (String.ofList before).utf8ByteSize

/-- Walking over two texts one after the other. -/
theorem advance_append (p : Position) (cs ds : List Char) :
    p.advance (cs ++ ds) = (p.advance cs).advance ds := by
  simp [advance, List.foldl_append]

/-- Walking over a text that starts with `c`. -/
theorem advance_cons (p : Position) (c : Char) (cs : List Char) :
    p.advance (c :: cs) = (p.next c).advance cs := rfl

/-- One more character moves the counted position as it moves every position. -/
theorem after_concat (cs : List Char) (c : Char) : after (cs ++ [c]) = (after cs).next c := by
  have hsize : (String.ofList (cs ++ [c])).utf8ByteSize = (String.ofList cs).utf8ByteSize + c.utf8Size := by
    rw [String.ofList_append, String.utf8ByteSize_append, ← String.singleton_eq_ofList,
      String.utf8ByteSize_singleton]
  unfold after next
  by_cases hc : c = '\n'
  · subst hc
    simp only [hsize, List.count_append, List.reverse_append, ↓reduceIte]
    simp [Nat.add_assoc]
  · have hne : (c != '\n') = true := by simpa using hc
    simp only [hsize, List.count_append, List.reverse_append, hc, ↓reduceIte]
    simp [hc, hne]
    omega

/-- The counted position behind two texts. -/
theorem after_append (cs ds : List Char) : after (cs ++ ds) = (after cs).advance ds := by
  induction ds generalizing cs with
  | nil => rw [List.append_nil]; rfl
  | cons d ds ih => rw [List.append_cons, ih, after_concat, advance_cons]

/-- Walking over a text from the start ends at the counted position. -/
theorem advance_start (cs : List Char) : start.advance cs = after cs :=
  (after_append [] cs).symm

/-! ## A text in front -/

/-- The position `p` of a text, in the text with `front` and a line break in front of it. -/
def behind (front : List Char) (p : Position) : Position where
  line := p.line + (1 + front.count '\n')
  column := p.column
  offset := p.offset + (1 + (String.ofList front).utf8ByteSize)

/-- The start of the later text is the place behind the line break. -/
theorem behind_start (front : List Char) : behind front start = (after front).next '\n' := by
  simp [behind, after, next, start, Nat.add_comm, Char.utf8Size]

/-- A step in the later text is a step in the whole text. -/
theorem behind_next (front : List Char) (p : Position) (c : Char) :
    behind front (p.next c) = (behind front p).next c := by
  unfold behind next
  split <;> simp [Nat.add_right_comm]

/-- Walking in the later text is walking in the whole text. -/
theorem behind_advance (front : List Char) (p : Position) (cs : List Char) :
    behind front (p.advance cs) = (behind front p).advance cs := by
  induction cs generalizing p with
  | nil => rfl
  | cons c cs ih => rw [advance_cons, ih, behind_next]; rfl

end MediaLanguage.Position

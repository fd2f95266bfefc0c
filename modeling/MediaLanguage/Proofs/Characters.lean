import MediaLanguage.Parser.Program

/-!
# Texts by their characters

The characters of a text are encoded in bytes, and to decode them anew for every character is what takes longest where
a given text is read. A text that is read from the list of its characters is read at once: for a literal the list is
found by `String.toList_ofList`, for texts one behind the other by `toList_append_of`.
-/

namespace MediaLanguage

/-- The characters of a text and of one behind it. -/
theorem toList_append_of {s t : String} {cs ds : List Char} (hs : s.toList = cs) (ht : t.toList = ds) :
    (s ++ t).toList = cs ++ ds := by
  rw [String.toList_append, hs, ht]

section Source

variable {source : String} {cs : List Char}

theorem tokenize_of_toList (h : source.toList = cs) :
    tokenize source = (scanFrom .start cs).ending.map fun finish => ⟨(scanFrom .start cs).tokens, finish⟩ := by
  rw [← h]
  rfl

theorem parse_of_toList (h : source.toList = cs) :
    parse source = ((scanFrom .start cs).ending.mapError Error.lexical).bind fun finish =>
      (TokenStream.parse ⟨(scanFrom .start cs).tokens, finish⟩).result [] := by
  rw [parse, tokenize_of_toList h]
  cases (scanFrom .start cs).ending <;> rfl

end Source

end MediaLanguage

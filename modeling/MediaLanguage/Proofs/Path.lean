import MediaLanguage.Path
import MediaLanguage.Proofs.Text.Lines

/-!
# Names in paths

A path that is read from a text has names without slashes, and what is made of such paths has them too.

* `Path.plain_ofString`, `Path.Plain.join`, `Path.Plain.normalize`: where names without slashes come from.
* `Path.ofString_of_plain`: a text without a slash is read as one name.
-/

namespace MediaLanguage

namespace Path

/-- No name of a path has a slash. -/
def Plain (p : Path) : Prop :=
  ∀ name ∈ p.parts, '/' ∉ name.toList

theorem plain_ofString (s : String) : (ofString s).Plain := by
  intro name hname
  obtain ⟨piece, hpiece, rfl⟩ := List.mem_map.1 (List.mem_filter.1 hname).1
  intro hslash
  rw [String.toList_ofList] at hslash
  have hfalse := Text.eq_false_of_mem_splitWhere hpiece '/' hslash
  cases hfalse

theorem Plain.join {directory path : Path} (hdirectory : directory.Plain) (hpath : path.Plain) :
    (directory.join path).Plain := by
  unfold Path.join
  split
  · exact hpath
  · intro name hname
    rcases List.mem_append.1 hname with hname | hname
    · exact hdirectory name hname
    · exact hpath name hname

theorem Plain.parent {path : Path} (h : path.Plain) : path.parent.Plain :=
  fun name hname => h name (List.dropLast_subset _ hname)

theorem mem_foldl_step {names done : List String} {name : String} (h : name ∈ names.foldl step done) :
    name ∈ done ∨ name ∈ names := by
  induction names generalizing done with
  | nil => exact .inl h
  | cons first rest ih =>
    rcases ih h with h | h
    · unfold step at h
      split at h
      · exact .inl (List.dropLast_subset _ h)
      · rcases List.mem_append.1 h with h | h
        · exact .inl h
        · exact .inr (by rw [List.mem_singleton.1 h]; exact List.mem_cons_self)
    · exact .inr (List.mem_cons_of_mem _ h)

theorem Plain.normalize {path : Path} (h : path.Plain) : path.normalize.Plain := by
  intro name hname
  rcases mem_foldl_step hname with hname | hname
  · cases hname
  · exact h name hname

/-- The last name without its ending has no slash. -/
theorem Plain.stem {path : Path} (h : path.Plain) : '/' ∉ path.stem.toList := by
  have hname : '/' ∉ path.name.toList := by
    unfold Path.name
    cases hlast : path.parts.getLast? with
    | none => decide
    | some name => exact h name (List.mem_of_getLast? hlast)
  unfold Path.stem
  dsimp only
  split
  · exact hname
  · rw [String.toList_ofList]
    exact fun hslash => hname (List.mem_of_mem_take hslash)

/-- A text without a slash is a path of one name. -/
theorem ofString_of_plain {name : String} (h : '/' ∉ name.toList) (hempty : name ≠ "") (hdot : name ≠ ".") :
    ofString name = ⟨0, [name]⟩ := by
  have hsplit : Text.splitWhere (· == '/') name.toList = [name.toList] :=
    Text.splitWhere_of_forall fun c hc => by
      rw [beq_eq_false_iff_ne]
      rintro rfl
      exact h hc
  have hslashes : name.toList.takeWhile (· == '/') = [] := by
    cases hname : name.toList with
    | nil => rfl
    | cons c cs =>
      rw [hname] at h
      exact List.takeWhile_cons_of_neg (by simpa using fun hc : c = '/' => h (hc ▸ List.mem_cons_self))
  unfold ofString
  rw [hsplit, hslashes]
  simp [hempty, hdot]

end Path

end MediaLanguage

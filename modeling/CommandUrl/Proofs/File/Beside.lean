import CommandUrl.Proofs.File.Components
import CommandUrl.Verb.Desktop

/-!
# Paths seen from a note

A path among the parameters of a command is seen from the folder of a note. What is
seen is told by the texts alone: a path that starts at the root is seen as it stands,
and so is every path where there is no note or nothing around it. Otherwise the folder
of the note comes first, which has the names of the note but for the last, and the path
as it stands comes after it.

A path is read into pieces and written again for that, so the proof has to say what a
path has after this that its text had before: its start and its names.
-/

namespace CommandUrl.Path

/-- The names on a path: what stands between slashes, but for nothing at all and single dots. -/
def namesOn (text : String) : List (List Char) :=
  (text.toList.splitOn '/').filter fun name => name ≠ [] ∧ name ≠ ['.']

/-- The path is seen as the target from the folder of the note. -/
inductive SeenFrom (note : Option String) (path : String) : String → Prop where
  /-- A path that starts at the root is seen as it stands. -/
  | rooted (root : path.toList.head? = some '/') : SeenFrom note path path
  /-- Nothing is around no note, the empty path and the root. -/
  | alone (outermost : ∀ given, note = some given →
      given = "" ∨ given.toList.head? = some '/' ∧ namesOn given = []) : SeenFrom note path path
  /-- The folder of the note comes first and the path after it. -/
  | around {given target : String} (noted : note = some given) (named : given ≠ "")
      (inner : given.toList.head? = some '/' → namesOn given ≠ [])
      (relative : path.toList.head? ≠ some '/') (ends : path.toList <:+ target.toList)
      (start : target.toList.head? = some '/' ↔ given.toList.head? = some '/')
      (names : namesOn target = (namesOn given).dropLast ++ namesOn path) :
      SeenFrom note path target

theorem isAbsolute_ofText_iff {text : String} :
    (ofText text).isAbsolute ↔ text.toList.head? = some '/' := by
  simp [ofText, isAbsolute_ofChars]

theorem names_ofText (text : String) : (ofText text).names = namesOn text := by
  rw [ofText, names_ofChars, Text.split_eq_splitOn, namesOn]
  apply List.filter_congr
  intro piece _
  simp [isEmptyPiece]

theorem beside_of_folder {note path : String} {folder : Path}
    (up : (ofText note).parent? = some folder) :
    beside (some note) path = join folder.text path := by
  have named : note ≠ "" := by
    rintro rfl
    cases up
  simp [beside, named, up]

theorem beside_of_none {note : Option String} {path : String}
    (alone : ∀ given, note = some given → given = "" ∨ (ofText given).parent? = none) :
    beside note path = path := by
  cases note with
  | none => rfl
  | some given =>
      rcases alone given rfl with empty | outermost
      · simp [beside, empty]
      · simp [beside, outermost]

theorem beside_of_absolute {path : String} (absolute : (ofText path).isAbsolute)
    (note : Option String) : beside note path = path := by
  simp only [beside]
  split
  · exact join_of_absolute absolute
  · rfl

/-- A relative path beside a note has the components of the note but for the last, and then its
own. -/
theorem components_beside {note path : String} {folder : Path}
    (relative : (ofText path).isAbsolute = false) (up : (ofText note).parent? = some folder) :
    components (beside (some note) path) =
      ((ofText note).isAbsolute, (ofText note).names.dropLast ++ (ofText path).names) := by
  have root : (ofText folder.text).isAbsolute = (ofText note).isAbsolute := by
    simpa [ofText, text] using isAbsolute_of_parent? up
  have inside : (ofText folder.text).names = (ofText note).names.dropLast := by
    rw [← names_of_parent? up]
    simpa [ofText, text] using names_chars (cut_of_parent? (cut_ofChars _) up)
  rw [beside_of_folder up, components_join relative, root, inside]

theorem parent?_ofText_eq_none_iff {given : String} :
    (ofText given).parent? = none ↔
      given = "" ∨ given.toList.head? = some '/' ∧ namesOn given = [] := by
  rw [ofText, parent?_eq_none_iff, ← names_ofText, ← isAbsolute_ofText_iff,
    String.toList_eq_nil_iff]
  rfl

theorem suffix_join (folder path : String) : path.toList <:+ (join folder path).toList := by
  unfold join
  split
  · exact List.suffix_refl _
  · split
    · exact ⟨folder.toList, by simp⟩
    · exact ⟨folder.toList ++ ['/'], by simp⟩

/-- A path is shown where it is seen from the note. -/
theorem beside_seenFrom (note : Option String) (path : String) :
    SeenFrom note path (beside note path) := by
  by_cases absolute : (ofText path).isAbsolute
  · rw [beside_of_absolute absolute]
    exact .rooted (isAbsolute_ofText_iff.mp absolute)
  · by_cases outermost : ∀ given, note = some given → given = "" ∨ (ofText given).parent? = none
    · rw [beside_of_none outermost]
      refine .alone fun given noted => ?_
      rcases outermost given noted with empty | nothing
      · exact Or.inl empty
      · exact parent?_ofText_eq_none_iff.mp nothing
    · have inside : ∃ given, note = some given ∧ given ≠ "" ∧ (ofText given).parent? ≠ none := by
        simpa using outermost
      rcases inside with ⟨given, rfl, named, inner⟩
      rcases Option.ne_none_iff_exists'.mp inner with ⟨folder, up⟩
      have relative : (ofText path).isAbsolute = false := by simpa using absolute
      have same := components_beside relative up
      simp only [components, Prod.mk.injEq, names_ofText] at same
      refine .around rfl named ?_ ?_ ?_ ?_ same.2
      · intro root unnamed
        exact inner (parent?_ofText_eq_none_iff.mpr (Or.inr ⟨root, unnamed⟩))
      · exact fun root => absolute (isAbsolute_ofText_iff.mpr root)
      · rw [beside_of_folder up]
        exact suffix_join folder.text path
      · rw [← isAbsolute_ofText_iff, ← isAbsolute_ofText_iff, same.1]

end CommandUrl.Path

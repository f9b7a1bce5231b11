import CommandUrl.Proofs.File.Path

/-!
# The components of a path

Two paths are compared by where they start and by the names on them. Empty pieces
and single dots do not count, so slashes may be repeated and may follow the path, and
neither makes a difference here.

Names are what is left of the pieces between slashes. A slash therefore puts the
names of what is before it in front of the names of what is after it, and a path that
is continued by another has the names of both.
-/

namespace CommandUrl.Path

variable {path outer : Path} {text : List Char}

/-- A path by its components: whether it starts at the root, and its names. -/
def components (text : String) : Bool × List (List Char) :=
  ((ofText text).isAbsolute, (ofText text).names)

theorem names_ofChars (text : List Char) :
    (ofChars text).names = (Text.split '/' text).filter (!isEmptyPiece ·) := by
  fun_cases ofChars text with
  | case1 rest => simp [names, Text.split, isEmptyPiece]
  | case2 => rfl
  | case3 rest => simp [names, Text.split, isEmptyPiece]
  | case4 => simp [names]

theorem isAbsolute_ofChars (text : List Char) :
    (ofChars text).isAbsolute = (text.head? == some '/') := by
  fun_cases ofChars text with
  | case1 | case2 | case3 => rfl
  | case4 =>
      next rooted _ _ =>
      cases text with
      | nil => rfl
      | cons c rest =>
          have other : c ≠ '/' := by
            rintro rfl
            exact rooted rest rfl
          simp [isAbsolute, other]

theorem names_append_slash (left right : List Char) :
    (ofChars (left ++ '/' :: right)).names = (ofChars left).names ++ (ofChars right).names := by
  simp only [names_ofChars, Text.split_separator, List.filter_append]

section Parent

theorem filter_of_empty {pieces : List (List Char)} (empty : ∀ piece ∈ pieces, isEmptyPiece piece) :
    pieces.filter (!isEmptyPiece ·) = [] := by
  apply List.filter_eq_nil_iff.mpr
  intro piece mem
  simp [empty piece mem]

theorem names_of_parent? (up : path.parent? = some outer) : outer.names = path.names.dropLast := by
  rcases parent?_cases up with ⟨_, empty, same⟩ | ⟨after, name, between, empty, counted, whole, _⟩
  · simp [same, names, filter_of_empty empty]
  · have first := filter_of_empty fun piece mem => empty piece (List.mem_append_left _ mem)
    have second := filter_of_empty fun piece mem => empty piece (List.mem_append_right _ mem)
    simp [names, whole, first, second, counted]

/-- A path that is written and read has the names that it had. -/
theorem names_chars (cut : path.Cut) : (ofChars path.chars).names = path.names := by
  have walked : (ofChars path.chars).names = (steps path.chars).filter (· ≠ ['.']) := by
    simp only [names_ofChars, steps, List.filter_filter]
    apply List.filter_congr
    intro piece _
    simp [isEmptyPiece, Bool.and_comm]
  have none : (leadSteps path.lead).filter (· ≠ ['.']) = [] := by
    cases path.lead <;> rfl
  rw [walked, steps_chars cut, List.filter_append, none, List.nil_append, List.filter_filter, names,
    ← List.filter_reverse]
  apply List.filter_congr
  intro piece _
  simp [isEmptyPiece, Bool.and_comm]

theorem cut_of_parent? (cut : path.Cut) (up : path.parent? = some outer) : outer.Cut := by
  intro piece mem
  rcases parent?_cases up with ⟨_, _, same⟩ | ⟨after, name, between, _, _, whole, _⟩
  · subst same
    cases mem
  · apply cut
    simp [whole, mem]

theorem isAbsolute_of_parent? (up : (ofChars text).parent? = some outer) :
    (ofChars outer.chars).isAbsolute = (ofChars text).isAbsolute := by
  have written : outer.chars <+: text := by
    simpa [chars_ofChars] using prefix_of_parent? up
  cases first : outer.chars with
  | nil =>
      have unrooted : (ofChars []).isAbsolute = false := rfl
      rw [unrooted]
      -- a path from the root would have left the slash at its start
      rcases parent?_cases up with ⟨current, _, _⟩ | ⟨_, _, _, _, _, _, same⟩
      · simp [isAbsolute, current]
      · cases lead : outer.lead with
        | root => simp [chars, lead] at first
        | current | plain => simp [isAbsolute, same, lead]
  | cons c rest =>
      rw [first] at written
      rcases written with ⟨more, rfl⟩
      simp only [isAbsolute_ofChars]
      rfl

theorem eq_nil_of_plain (plain : (ofChars text).lead = .plain)
    (empty : ∀ piece ∈ (ofChars text).pieces, isEmptyPiece piece) : text = [] := by
  have written : text = Text.join '/' (ofChars text).pieces.reverse := by
    conv => lhs; rw [← chars_ofChars text]
    simp [chars, plain]
  have first : ∀ piece ∈ (ofChars text).pieces.reverse, piece = [] ∨ piece = ['.'] := by
    intro piece mem
    simpa [isEmptyPiece] using empty piece (List.mem_reverse.mp mem)
  -- a piece without a name at the start would have given the path another start
  rcases pieces : (ofChars text).pieces.reverse with _ | ⟨piece, _ | ⟨next, rest⟩⟩
  · rw [written, pieces]
    rfl
  · rw [pieces] at written first
    rcases first piece (by simp) with rfl | rfl
    · exact written
    · subst written
      cases plain
  · rw [pieces] at written first
    rcases first piece (by simp) with rfl | rfl
    · rw [written] at plain
      cases plain
    · rw [written] at plain
      cases plain

/-- Around the empty path and around the root there is nothing. -/
theorem parent?_eq_none_iff :
    (ofChars text).parent? = none ↔
      text = [] ∨ (ofChars text).isAbsolute ∧ (ofChars text).names = [] := by
  constructor
  · intro nothing
    simp only [parent?] at nothing
    split at nothing
    · cases nothing
    · next dropped =>
        have empty := List.dropWhile_eq_nil_iff.mp dropped
        cases lead : (ofChars text).lead with
        | root => exact Or.inr ⟨by simp [isAbsolute, lead], by simp [names, filter_of_empty empty]⟩
        | current => simp [lead] at nothing
        | plain => exact Or.inl (eq_nil_of_plain lead empty)
  · rintro (rfl | ⟨absolute, unnamed⟩)
    · rfl
    · have empty : (ofChars text).pieces.dropWhile isEmptyPiece = [] := by
        apply List.dropWhile_eq_nil_iff.mpr
        simpa [names] using unnamed
      have root : (ofChars text).lead = .root := by simpa [isAbsolute] using absolute
      simp only [parent?, empty, root]

end Parent

section Join

variable {folder path : String}

theorem join_of_absolute (absolute : (ofText path).isAbsolute) : join folder path = path :=
  if_pos absolute

/-- There is one slash at least between a folder and a relative path, unless the folder is empty. -/
theorem join_cases (folder : String) (relative : (ofText path).isAbsolute = false) :
    (folder = "" ∧ join folder path = path) ∨
      (∃ front, folder.toList = front ++ ['/'] ∧
        (join folder path).toList = front ++ '/' :: path.toList) ∨
      (folder ≠ "" ∧ (join folder path).toList = folder.toList ++ '/' :: path.toList) := by
  by_cases empty : folder = ""
  · subst empty
    simp [join, relative]
  · by_cases slashed : folder.toList.getLast? = some '/'
    · rcases List.getLast?_eq_some_iff.mp slashed with ⟨front, whole⟩
      refine Or.inr (Or.inl ⟨front, whole, ?_⟩)
      simp [join, relative, whole]
    · refine Or.inr (Or.inr ⟨empty, ?_⟩)
      cases last : folder.toList.getLast? with
      | none => exact absurd (String.toList_eq_nil_iff.mp (List.getLast?_eq_none_iff.mp last)) empty
      | some c =>
          have other : c ≠ '/' := by
            rintro rfl
            exact slashed last
          simp [join, relative, last, other]

/-- A relative path that is seen from a folder has the names of the folder and then its own. -/
theorem components_join (relative : (ofText path).isAbsolute = false) :
    components (join folder path) =
      ((ofText folder).isAbsolute, (ofText folder).names ++ (ofText path).names) := by
  rcases join_cases folder relative with ⟨rfl, same⟩ | ⟨front, whole, joined⟩ | ⟨named, joined⟩
  · rw [same, components, relative]
    rfl
  · have root : (ofChars (front ++ '/' :: path.toList)).isAbsolute =
        (ofChars (front ++ ['/'])).isAbsolute := by
      cases front <;> simp [isAbsolute_ofChars]
    have none : (ofChars []).names = [] := rfl
    simp [components, ofText, joined, whole, names_append_slash, root, none]
  · have root : (ofChars (folder.toList ++ '/' :: path.toList)).isAbsolute =
        (ofChars folder.toList).isAbsolute := by
      cases start : folder.toList with
      | nil => exact absurd (String.toList_eq_nil_iff.mp start) named
      | cons c rest => simp [isAbsolute_ofChars]
    simp only [components, ofText, joined, names_append_slash, root]

end Join

end CommandUrl.Path

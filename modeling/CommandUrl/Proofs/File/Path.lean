import CommandUrl.File.Path
import CommandUrl.Proofs.Text.Split
import Mathlib.Data.List.TakeWhile

/-!
# The path around a path

Taking the last component off a path leaves a beginning of its text. The names that
are walked on the way to it are those of the path up to the component, but for single
dots, which lead nowhere.
-/

namespace CommandUrl.Path

variable {lead : Lead} {pieces : List (List Char)} {path outer : Path}

/-- The names that are walked when a text is followed as a path. -/
def steps (text : List Char) : List (List Char) :=
  (Text.split '/' text).filter (· ≠ [])

/-- The names that the start of a path makes. -/
def leadSteps : Lead → List (List Char)
  | .root | .plain => []
  | .current => [['.']]

/-- The pieces are what is between the slashes. -/
def Cut (path : Path) : Prop :=
  ∀ piece ∈ path.pieces, '/' ∉ piece

theorem cut_ofChars (text : List Char) : (ofChars text).Cut := by
  fun_cases ofChars text with
  | case2 =>
      intro piece mem
      cases mem
  | _ =>
      intro piece mem
      apply Text.not_mem_of_mem_split
      exact List.mem_reverse.mp mem

theorem steps_join (cut : ∀ piece ∈ pieces, '/' ∉ piece) :
    steps (Text.join '/' pieces) = pieces.filter (· ≠ []) := by
  unfold steps
  cases pieces with
  | nil => rfl
  | cons piece pieces => rw [Text.split_join (by simp) cut]

theorem steps_chars (cut : path.Cut) :
    steps path.chars = leadSteps path.lead ++ path.pieces.reverse.filter (· ≠ []) := by
  rcases path with ⟨lead, pieces⟩
  have body : steps (Text.join '/' pieces.reverse) = pieces.reverse.filter (· ≠ []) := by
    apply steps_join
    intro piece mem
    exact cut piece (List.mem_reverse.mp mem)
  cases lead with
  | root =>
      rw [← body]
      simp [chars, steps, leadSteps, Text.split]
  | plain =>
      rw [← body]
      simp [chars, leadSteps]
  | current =>
      cases pieces with
      | nil => rfl
      | cons piece pieces =>
          rw [← body]
          simp [chars, steps, leadSteps, Text.split]

theorem parent?_cases (up : path.parent? = some outer) :
    (path.lead = .current ∧ (∀ piece ∈ path.pieces, isEmptyPiece piece) ∧
        outer = ⟨.plain, []⟩) ∨
      ∃ after name between, (∀ piece ∈ after ++ between, isEmptyPiece piece) ∧
        isEmptyPiece name = false ∧ path.pieces = after ++ name :: (between ++ outer.pieces) ∧
        path.lead = outer.lead := by
  unfold parent? at up
  split at up
  · next name rest pieces =>
      cases up
      right
      have counted := List.head?_dropWhile_not isEmptyPiece path.pieces
      rw [pieces] at counted
      refine ⟨path.pieces.takeWhile isEmptyPiece, name, rest.takeWhile isEmptyPiece, ?_, counted, ?_,
        rfl⟩
      · intro piece mem
        rcases List.mem_append.mp mem with inside | inside
        · exact List.all_eq_true.mp List.all_takeWhile piece inside
        · exact List.all_eq_true.mp List.all_takeWhile piece inside
      · simp only [List.takeWhile_append_dropWhile]
        rw [← pieces, List.takeWhile_append_dropWhile]
  · next empty =>
    split at up
    · next current =>
        cases up
        exact Or.inl ⟨current, List.dropWhile_eq_nil_iff.mp empty, rfl⟩
    · cases up
    · cases up

/-- With more pieces at its end a path has more text at its end. -/
theorem prefix_chars (lead : Lead) {more : List (List Char)} (some : more ≠ [])
    (pieces : List (List Char)) : chars ⟨lead, pieces⟩ <+: chars ⟨lead, more ++ pieces⟩ := by
  have body : Text.join '/' pieces.reverse <+: Text.join '/' (more ++ pieces).reverse := by
    rw [List.reverse_append]
    cases pieces with
    | nil => exact List.nil_prefix
    | cons piece pieces =>
        rw [Text.join_append (by simp) (by simpa using some)]
        exact List.prefix_append _ _
  rcases List.exists_cons_of_ne_nil some with ⟨first, rest, rfl⟩
  cases lead with
  | root => simpa [chars] using body
  | plain => simpa [chars] using body
  | current =>
      cases pieces with
      | nil => simp [chars]
      | cons piece pieces => simpa [chars] using body

theorem prefix_of_parent? (up : path.parent? = some outer) : outer.chars <+: path.chars := by
  rcases path with ⟨lead, pieces⟩
  rcases outer with ⟨outerLead, outerPieces⟩
  rcases parent?_cases up with ⟨_, _, same⟩ | ⟨after, name, between, _, _, whole, same⟩
  · cases same
    exact List.nil_prefix
  · dsimp only at whole same
    subst whole same
    have more : after ++ name :: between ≠ [] := by simp
    simpa using prefix_chars lead more outerPieces

theorem step_of_isEmptyPiece {step : List Char} {pieces : List (List Char)}
    (empty : ∀ piece ∈ pieces, isEmptyPiece piece)
    (mem : step ∈ pieces.reverse.filter (· ≠ [])) : step = ['.'] := by
  simp only [List.mem_filter, List.mem_reverse, decide_eq_true_eq] at mem
  simpa [isEmptyPiece, mem.2] using empty step mem.1

/-- The names on the way to the last component that counts. -/
theorem steps_of_parent? (cut : path.Cut) (up : path.parent? = some outer)
    (some : outer.chars ≠ []) :
    ∃ dots name more, steps path.chars = steps outer.chars ++ (dots ++ name :: more) ∧
      ∀ step ∈ dots ++ more, step = ['.'] := by
  rcases parent?_cases up with ⟨_, _, same⟩ | ⟨after, name, between, empty, counted, whole, same⟩
  · subst same
    exact absurd rfl some
  · have cutOuter : outer.Cut := by
      intro piece mem
      apply cut
      simp [whole, mem]
    have named : name ≠ [] := by
      rintro rfl
      cases counted
    refine ⟨between.reverse.filter (· ≠ []), name, after.reverse.filter (· ≠ []), ?_, ?_⟩
    · rw [steps_chars cut, steps_chars cutOuter, whole, same]
      simp [named]
    · intro step mem
      rcases List.mem_append.mp mem with inside | inside
      · apply step_of_isEmptyPiece _ inside
        intro piece mem
        exact empty piece (List.mem_append_right _ mem)
      · apply step_of_isEmptyPiece _ inside
        intro piece mem
        exact empty piece (List.mem_append_left _ mem)

end CommandUrl.Path

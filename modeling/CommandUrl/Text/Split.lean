/-!
# Cutting a text at a separator

Queries, host names, numeric addresses and paths are all cut at a separator,
and each wants every piece, the empty ones included: a text with `n` separators
has `n + 1` pieces.
-/

namespace CommandUrl.Text

/-- The pieces between the separators; there is always at least one. -/
def split (separator : Char) : List Char → List (List Char)
  | [] => [[]]
  | c :: rest =>
    if c = separator then
      [] :: split separator rest
    else
      match split separator rest with
      | [] => [[c]]
      | piece :: pieces => (c :: piece) :: pieces

/-- Puts the pieces together again, with the separator between every two. -/
def join (separator : Char) : List (List Char) → List Char
  | [] => []
  | [piece] => piece
  | piece :: pieces => piece ++ separator :: join separator pieces

/-- Cuts a text in two at the last separator, if there is one. -/
def cutLast? (separator : Char) : List Char → Option (List Char × List Char)
  | [] => none
  | c :: rest =>
    match cutLast? separator rest with
    | some (before, after) => some (c :: before, after)
    | none => if c = separator then some ([], rest) else none

theorem split_ne_nil (separator : Char) (text : List Char) : split separator text ≠ [] := by
  cases text with
  | nil => simp [split]
  | cons c rest =>
    by_cases h : c = separator
    · simp [split, h]
    · simp only [split, h, if_false]
      split <;> simp

theorem join_cons_of_ne_nil (separator : Char) (piece : List Char) {pieces : List (List Char)}
    (h : pieces ≠ []) :
    join separator (piece :: pieces) = piece ++ separator :: join separator pieces := by
  cases pieces with
  | nil => exact absurd rfl h
  | cons _ _ => rfl

/-- Cutting loses nothing. -/
@[simp]
theorem join_split (separator : Char) (text : List Char) :
    join separator (split separator text) = text := by
  induction text with
  | nil => rfl
  | cons c rest ih =>
    by_cases h : c = separator
    · simp [split, h, join_cons_of_ne_nil _ _ (split_ne_nil separator rest), ih]
    · simp only [split, h, if_false]
      cases hs : split separator rest with
      | nil => exact absurd hs (split_ne_nil separator rest)
      | cons piece pieces =>
        rw [hs] at ih
        cases pieces with
        | nil => simpa [join] using ih
        | cons next more =>
          rw [join_cons_of_ne_nil _ _ (by simp)] at ih ⊢
          simp [ih]

end CommandUrl.Text

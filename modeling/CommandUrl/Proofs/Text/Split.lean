import CommandUrl.Proofs.Text.Percent
import CommandUrl.Text.Split

/-!
# Pieces are cut where they were joined

Cutting undoes joining as long as the separator occurs in none of the pieces,
and escaping goes through the pieces one by one as long as the separator is not
escaped. The same holds of a single cut at the last separator.
-/

namespace CommandUrl.Text

variable {separator : Char}

theorem split_of_not_mem {text : List Char} (absent : separator ∉ text) :
    split separator text = [text] := by
  induction text with
  | nil => rfl
  | cons c text ih =>
      rw [List.mem_cons, not_or] at absent
      rw [split, if_neg (Ne.symm absent.1), ih absent.2]

theorem split_append {piece : List Char} (absent : separator ∉ piece) (rest : List Char) :
    split separator (piece ++ separator :: rest) = piece :: split separator rest := by
  induction piece with
  | nil => rw [List.nil_append, split, if_pos rfl]
  | cons c piece ih =>
      rw [List.mem_cons, not_or] at absent
      rw [List.cons_append, split, if_neg (Ne.symm absent.1), ih absent.2]

theorem not_mem_of_mem_split {text piece : List Char} (mem : piece ∈ split separator text) :
    separator ∉ piece := by
  induction text generalizing piece with
  | nil => simp_all [split]
  | cons c text ih =>
      unfold split at mem
      split at mem
      · rcases List.mem_cons.mp mem with rfl | later
        · simp
        · exact ih later
      · next other =>
          split at mem
          · simp_all [Ne.symm other]
          · next first pieces whole =>
              rcases List.mem_cons.mp mem with rfl | later
              · have absent : separator ∉ first := ih (by simp [whole])
                simp [absent, Ne.symm other]
              · exact ih (by simp [whole, later])

/-- Pieces without the separator are cut where they were joined. -/
theorem split_join {pieces : List (List Char)} (some : pieces ≠ [])
    (absent : ∀ piece ∈ pieces, separator ∉ piece) :
    split separator (join separator pieces) = pieces := by
  induction pieces with
  | nil => exact absurd rfl some
  | cons piece pieces ih =>
      have first : separator ∉ piece := absent piece (by simp)
      cases pieces with
      | nil => exact split_of_not_mem first
      | cons next pieces =>
          have rest := ih (by simp) fun other mem => absent other (by simp [mem])
          rw [join_cons_of_ne_nil _ _ (by simp), split_append first, rest]

theorem join_append {left right : List (List Char)} (some : left ≠ []) (more : right ≠ []) :
    join separator (left ++ right) = join separator left ++ separator :: join separator right := by
  induction left with
  | nil => exact absurd rfl some
  | cons piece pieces ih =>
      cases pieces with
      | nil => exact join_cons_of_ne_nil separator piece more
      | cons next pieces =>
          have first : join separator (piece :: next :: pieces) =
              piece ++ separator :: join separator (next :: pieces) := rfl
          rw [List.cons_append, join_cons_of_ne_nil _ _ (by simp), ih (by simp), first]
          simp

/-- A text is cut at each separator, so it is cut on both sides of one. -/
theorem split_separator (separator : Char) (left right : List Char) :
    split separator (left ++ separator :: right) = split separator left ++ split separator right := by
  have joined : left ++ separator :: right =
      join separator (split separator left ++ split separator right) := by
    rw [join_append (split_ne_nil separator left) (split_ne_nil separator right), join_split,
      join_split]
  rw [joined, split_join]
  · simp [split_ne_nil]
  · intro piece mem
    rcases List.mem_append.mp mem with inside | inside
    · exact not_mem_of_mem_split inside
    · exact not_mem_of_mem_split inside

/-- A text is cut where lists are split. -/
theorem split_eq_splitOn (separator : Char) (text : List Char) :
    split separator text = text.splitOn separator := by
  unfold List.splitOn
  induction text with
  | nil => simp [split]
  | cons c rest ih =>
      rw [List.splitOnP_cons_eq_if_modifyHead, ← ih]
      by_cases same : c = separator
      · simp [split, same]
      · cases pieces : split separator rest with
        | nil => exact absurd pieces (split_ne_nil separator rest)
        | cons piece more => simp [split, same, pieces]

theorem length_split (separator : Char) (text : List Char) :
    (split separator text).length = text.count separator + 1 := by
  induction text with
  | nil => rfl
  | cons c text ih =>
      by_cases same : c = separator
      · simp [split, same, ih]
      · simp only [split, if_neg same]
        split
        · next nothing => exact absurd nothing (split_ne_nil separator text)
        · next first pieces whole =>
            rw [whole] at ih
            simpa [same] using ih

theorem split_eq_pair_iff {text left right : List Char} :
    split separator text = [left, right] ↔
      text = left ++ separator :: right ∧ text.count separator = 1 := by
  constructor
  · intro pieces
    have whole := join_split separator text
    have size := length_split separator text
    rw [pieces] at whole size
    simp only [List.length_cons, List.length_nil] at size
    exact ⟨whole.symm, by omega⟩
  · rintro ⟨rfl, once⟩
    have counts : left.count separator = 0 ∧ right.count separator = 0 := by
      simp only [List.count_append, List.count_cons_self] at once
      omega
    rw [List.count_eq_zero, List.count_eq_zero] at counts
    rw [split_append counts.1, split_of_not_mem counts.2]

theorem mem_join {c : Char} {pieces : List (List Char)} (mem : c ∈ join separator pieces) :
    c = separator ∨ ∃ piece ∈ pieces, c ∈ piece := by
  induction pieces with
  | nil => simp [join] at mem
  | cons piece pieces ih =>
      cases pieces with
      | nil => exact Or.inr ⟨piece, by simp, mem⟩
      | cons next pieces =>
          rw [join_cons_of_ne_nil _ _ (by simp), List.mem_append, List.mem_cons] at mem
          rcases mem with first | here | rest
          · exact Or.inr ⟨piece, by simp, first⟩
          · exact Or.inl here
          · rcases ih rest with here | ⟨other, otherMem, inside⟩
            · exact Or.inl here
            · exact Or.inr ⟨other, by simp [otherMem], inside⟩

/-- A separator that is not escaped still separates the pieces after they have been escaped. -/
theorem encode_join {set : Char → Bool} (kept : Percent.encodeChar set separator = [separator])
    (pieces : List (List Char)) :
    Percent.encode set (join separator pieces) =
      join separator (pieces.map (Percent.encode set)) := by
  induction pieces with
  | nil => rfl
  | cons piece pieces ih =>
      cases pieces with
      | nil => rfl
      | cons next pieces =>
          have more : (next :: pieces).map (Percent.encode set) ≠ [] := by simp
          rw [join_cons_of_ne_nil _ _ (by simp), Percent.encode_append, Percent.encode_cons, kept,
            ih, List.singleton_append]
          exact (join_cons_of_ne_nil separator (Percent.encode set piece) more).symm

section CutLast

variable {text left right : List Char}

theorem cutLast?_of_not_mem (absent : separator ∉ text) : cutLast? separator text = none := by
  induction text with
  | nil => rfl
  | cons c text ih =>
      rw [List.mem_cons, not_or] at absent
      rw [cutLast?, ih absent.2]
      exact if_neg (Ne.symm absent.1)

theorem cutLast?_append (absent : separator ∉ left) (right : List Char) :
    cutLast? separator (left ++ right) =
      (cutLast? separator right).map fun (before, after) => (left ++ before, after) := by
  induction left with
  | nil => simp
  | cons c left ih =>
      rw [List.mem_cons, not_or] at absent
      rw [List.cons_append, cutLast?, ih absent.2]
      cases cutLast? separator right with
      | none => exact if_neg (Ne.symm absent.1)
      | some pieces => rfl

theorem cutLast?_of_last (left : List Char) (absent : separator ∉ right) :
    cutLast? separator (left ++ separator :: right) = some (left, right) := by
  induction left with
  | nil => simp [cutLast?, cutLast?_of_not_mem absent]
  | cons c left ih => simp [cutLast?, ih]

theorem eq_of_cutLast? (cut : cutLast? separator text = some (left, right)) :
    text = left ++ separator :: right := by
  induction text generalizing left with
  | nil => cases cut
  | cons c text ih =>
      rw [cutLast?] at cut
      split at cut
      · next before after found =>
          cases cut
          rw [ih found]
          rfl
      · split at cut
        · next same =>
            cases cut
            rw [same]
            rfl
        · cases cut

/-- A separator that is not escaped is the last one after escaping if it was before. -/
theorem cutLast?_encode {set : Char → Bool}
    (kept : Percent.encodeChar set separator = [separator])
    (plain : Percent.isEscapeChar separator = false) (text : List Char) :
    cutLast? separator (Percent.encode set text) =
      (cutLast? separator text).map fun (before, after) =>
        (Percent.encode set before, Percent.encode set after) := by
  induction text with
  | nil => rfl
  | cons c text ih =>
      rw [Percent.encode_cons]
      by_cases same : c = separator
      · subst same
        rw [kept, List.singleton_append, cutLast?, cutLast?, ih]
        cases cutLast? c text <;> simp [kept]
      · have absent : separator ∉ Percent.encodeChar set c := by
          intro mem
          rcases Percent.encodeChar_cases set c with ⟨_, raw⟩ | ⟨_, escaped, inside⟩
          · rw [raw, List.mem_singleton] at mem
            exact same mem.symm
          · rw [escaped] at mem
            rw [inside separator mem] at plain
            cases plain
        rw [cutLast?_append absent, cutLast?, ih]
        cases cutLast? separator text <;> simp [same]

end CutLast

end CommandUrl.Text

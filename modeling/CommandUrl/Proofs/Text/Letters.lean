import CommandUrl.Proofs.Text.CommonForm

/-!
# Lowering makes no letters

Some characters that are no letters have case: the letters in circles, which are
symbols. Their small forms are symbols too, so that a character that is left out of
the common form as it stands is left out of it after it has been lowered.

The tables are compared interval by interval. A range of capitals lies in an interval
of letters, but for two: the capitals of the one have gaps between them, and those of
the other are the letters in circles.
-/

namespace CommandUrl.Text

/-- The letters and numbers of a text, as they are written. -/
def letters (text : List Char) : List Char :=
  text.filter isLetterOrNumber

namespace Ranges

variable {ranges : Ranges} {first last code : Nat}

/-- One of the intervals has everything from `first` to `last` in it. -/
def spans (ranges : Ranges) (first last : Nat) : Bool :=
  ranges.any fun range => Nat.ble last range.2 && Nat.ble range.1 first

/-- None of the intervals has anything from `first` to `last` in it. -/
def misses (ranges : Ranges) (first last : Nat) : Bool :=
  ranges.all fun range => Nat.blt range.2 first || Nat.blt last range.1

theorem includes_of_spans (spanned : ranges.spans first last) (after : first ≤ code)
    (before : code ≤ last) : ranges.includes code := by
  simp only [spans, List.any_eq_true, Bool.and_eq_true, Nat.ble_eq] at spanned
  rcases spanned with ⟨range, mem, ends, starts⟩
  apply includes_iff.mpr
  exact ⟨range, mem, by omega, by omega⟩

theorem not_includes_of_misses (missed : ranges.misses first last) (after : first ≤ code)
    (before : code ≤ last) : ¬ ranges.includes code := by
  intro included
  rcases includes_iff.mp included with ⟨range, mem, starts, ends⟩
  simp only [misses, List.all_eq_true, Bool.or_eq_true, Nat.blt_eq] at missed
  rcases missed range mem with apart | apart
  · omega
  · omega

end Ranges

section Tables

variable {code : Nat} {range : CaseRange}

theorem caseRanges_letters : ∀ range ∈ caseRanges,
    letterNumberRanges.spans range.first range.last ∨
    letterNumberRanges.misses (range.first + range.offset).toNat (range.last + range.offset).toNat ∨
    ∀ steps < range.last + 1 - range.first, range.covers (range.first + steps) →
      letterNumberRanges.includes (range.first + steps) := by
  decide +kernel

theorem includes_of_lowered (mem : range ∈ caseRanges) (covered : range.covers code)
    (letter : letterNumberRanges.includes (code + range.offset).toNat) :
    letterNumberRanges.includes code := by
  have bounds : range.first ≤ code ∧ code ≤ range.last := by
    simp only [CaseRange.covers, Bool.and_eq_true, decide_eq_true_eq] at covered
    exact covered.1
  rcases caseRanges_letters range mem with spanned | missed | listed
  · exact Ranges.includes_of_spans spanned bounds.1 bounds.2
  · exfalso
    apply Ranges.not_includes_of_misses missed _ _ letter
    · omega
    · omega
  · have place : range.first + (code - range.first) = code := by omega
    rw [← place] at covered ⊢
    apply listed
    · omega
    · exact covered

theorem includes_of_lowerCode (letter : letterNumberRanges.includes (lowerCode code)) :
    letterNumberRanges.includes code := by
  simp only [lowerCode] at letter
  split at letter
  · next range found =>
      apply includes_of_lowered (List.mem_of_find?_eq_some found) _ letter
      simpa using List.find?_some found
  · exact letter

set_option maxRecDepth 4000 in
theorem includes_of_ofNat (letter : isLetterOrNumber (Char.ofNat code)) :
    letterNumberRanges.includes code := by
  by_cases valid : code.isValidChar
  · rw [Char.ofNat, dif_pos valid] at letter
    exact letter
  · -- what is no code point becomes the null character
    have null : ¬ letterNumberRanges.includes 0 := by decide
    rw [Char.ofNat, dif_neg valid] at letter
    exact absurd letter null

end Tables

theorem isLetterOrNumber_of_mem_lowerChar {c lowered : Char} (mem : lowered ∈ lowerChar c)
    (letter : isLetterOrNumber lowered) : isLetterOrNumber c := by
  simp only [lowerChar] at mem
  split at mem
  · next dotted =>
      subst dotted
      decide
  · simp only [List.mem_singleton] at mem
    subst mem
    apply includes_of_lowerCode
    exact includes_of_ofNat letter

/-- What is no letter and no number leaves nothing in the common form. -/
theorem filter_lowerChar {c : Char} (other : isLetterOrNumber c = false) :
    (lowerChar c).filter isLetterOrNumber = [] := by
  simp only [List.filter_eq_nil_iff]
  intro lowered mem letter
  have kept := isLetterOrNumber_of_mem_lowerChar mem letter
  simp [other] at kept

end CommandUrl.Text

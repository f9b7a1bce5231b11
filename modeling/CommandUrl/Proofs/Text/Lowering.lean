import CommandUrl.Proofs.Text.Letters

/-!
# Lower case is final

A text that has been lowered is not changed by being lowered again, and nor is any
part of it. Two things have to be seen for this. What a character is lowered to has
to be lower case itself, which is a fact about the table: no range of capitals has a
code point in it that another range, or the same one, leads to. And a lowered text has
no capital sigma in it, so that lowering looks at no neighbours the second time, and it
does not matter what has been taken out of the text in between.

The table is checked by pairs of ranges. Most pairs are far apart. Where small and
capital letters alternate, the small ones lie between the capitals.
-/

namespace CommandUrl.Text

section Tables

variable {first last step code : Nat} {range : CaseRange}

/-- None of the code points from `first` to `last` that are `step` apart is in the range. -/
def CaseRange.avoids (range : CaseRange) (first last step : Nat) : Bool :=
  Nat.blt last range.first || Nat.blt range.last first ||
    Nat.ble range.first first && (Nat.beq first last || Nat.beq (step % range.step) 0) &&
      Nat.blt 0 ((first - range.first) % range.step)

theorem not_covers_of_avoids (avoided : range.avoids first last step) (after : first ≤ code)
    (before : code ≤ last) (stepped : step ∣ code - first) : ¬ range.covers code := by
  intro covered
  simp only [CaseRange.covers, Bool.and_eq_true, decide_eq_true_eq] at covered
  rcases covered with ⟨⟨starts, ends⟩, met⟩
  simp only [CaseRange.avoids, Bool.or_eq_true, Bool.and_eq_true, Nat.blt_eq, Nat.ble_eq,
    Nat.beq_eq] at avoided
  rcases avoided with (apart | apart) | ⟨⟨starts, aligned⟩, between⟩
  · omega
  · omega
  · have whole : range.step ∣ code - range.first := Nat.dvd_of_mod_eq_zero met
    have part : range.step ∣ code - first := by
      rcases aligned with single | aligned
      · have none : code - first = 0 := by omega
        simp [none]
      · exact Nat.dvd_trans (Nat.dvd_of_mod_eq_zero aligned) stepped
    have rest : first - range.first = (code - range.first) - (code - first) := by omega
    have inside : range.step ∣ first - range.first := by
      rw [rest]
      exact Nat.dvd_sub whole part
    have none := Nat.mod_eq_zero_of_dvd inside
    omega

/-- What the range leads to is in no range, and is not the capital I with a dot either, which is
lowered to two characters. -/
def CaseRange.leadsOut (range : CaseRange) : Bool :=
  let first := (range.first + range.offset).toNat
  let last := (range.last + range.offset).toNat
  Nat.ble (-range.offset).toNat range.first && (Nat.blt last 0x130 || Nat.blt 0x130 first) &&
    caseRanges.all (·.avoids first last range.step)

theorem leadsOut_of_mem (mem : range ∈ caseRanges) : range.leadsOut := by
  have all : caseRanges.all CaseRange.leadsOut := by decide +kernel
  exact List.all_eq_true.mp all range mem

theorem lowerCode_cases (code : Nat) :
    lowerCode code = code ∨
      ∃ range ∈ caseRanges, range.covers code ∧ lowerCode code = (code + range.offset).toNat := by
  simp only [lowerCode]
  split
  · next range found =>
      right
      refine ⟨range, List.mem_of_find?_eq_some found, ?_, rfl⟩
      simpa using List.find?_some found
  · exact Or.inl rfl

theorem lowerCode_of_not_covers (free : ∀ range ∈ caseRanges, ¬ range.covers code) :
    lowerCode code = code := by
  rcases lowerCode_cases code with same | ⟨range, mem, covered, _⟩
  · exact same
  · exact absurd covered (free range mem)

theorem lowered_of_covers (mem : range ∈ caseRanges) (covered : range.covers code) :
    lowerCode (code + range.offset).toNat = (code + range.offset).toNat ∧
      (code + range.offset).toNat ≠ 0x130 := by
  have out := leadsOut_of_mem mem
  simp only [CaseRange.leadsOut, Bool.and_eq_true, Bool.or_eq_true, Nat.ble_eq, Nat.blt_eq,
    List.all_eq_true] at out
  simp only [CaseRange.covers, Bool.and_eq_true, decide_eq_true_eq] at covered
  rcases out with ⟨⟨positive, missed⟩, apart⟩
  rcases covered with ⟨⟨starts, ends⟩, met⟩
  constructor
  · apply lowerCode_of_not_covers
    intro other otherMem
    apply not_covers_of_avoids (apart other otherMem)
    · omega
    · omega
    · have steps : (code + range.offset).toNat - (range.first + range.offset).toNat =
          code - range.first := by
        omega
      rw [steps]
      exact Nat.dvd_of_mod_eq_zero met
  · omega

theorem lowerCode_lowerCode (code : Nat) : lowerCode (lowerCode code) = lowerCode code := by
  rcases lowerCode_cases code with same | ⟨range, mem, covered, lowered⟩
  · rw [same, same]
  · rw [lowered]
    exact (lowered_of_covers mem covered).1

theorem lowerCode_ne_dotted (other : code ≠ 0x130) : lowerCode code ≠ 0x130 := by
  rcases lowerCode_cases code with same | ⟨range, mem, covered, lowered⟩
  · rw [same]
    exact other
  · rw [lowered]
    exact (lowered_of_covers mem covered).2

end Tables

section Texts

variable {c lowered : Char} {before text : List Char}

/-- Every character of the text is its own lower-case form. -/
def IsLowered (text : List Char) : Prop :=
  ∀ c ∈ text, lowerChar c = [c]

theorem lowerChar_of_mem_lowerChar (mem : lowered ∈ lowerChar c) :
    lowerChar lowered = [lowered] := by
  by_cases dotted : c = '\u0130'
  · subst dotted
    have parts : lowered = 'i' ∨ lowered = '\u0307' := by simpa [lowerChar] using mem
    rcases parts with rfl | rfl
    · decide +kernel
    · decide +kernel
  · have made : lowered = Char.ofNat (lowerCode c.toNat) := by
      simpa [lowerChar, dotted] using mem
    by_cases valid : (lowerCode c.toNat).isValidChar
    · have code : lowered.toNat = lowerCode c.toNat := by
        rw [made, Char.ofNat, dif_pos valid]
        rfl
      have other : lowered ≠ '\u0130' := by
        intro same
        have differs : c.toNat ≠ 0x130 := fun code => dotted (Char.toNat_inj.mp code)
        apply lowerCode_ne_dotted differs
        rw [← code, same]
        rfl
      simp only [lowerChar, if_neg other, code, lowerCode_lowerCode]
      rw [← code, Char.ofNat_toNat]
    · -- what is no code point becomes the null character
      have null : lowered = '\x00' := by
        rw [made, Char.ofNat, dif_neg valid]
        rfl
      subst null
      decide +kernel

theorem ne_capitalSigma_of_lowerChar (fixed : lowerChar c = [c]) : c ≠ capitalSigma := by
  rintro rfl
  revert fixed
  decide +kernel

theorem isLowered_lowerAfter (before text : List Char) : IsLowered (lowerAfter before text) := by
  induction text generalizing before with
  | nil => simp [IsLowered, lowerAfter]
  | cons c text ih =>
      intro lowered mem
      simp only [lowerAfter, List.mem_append] at mem
      rcases mem with here | later
      · by_cases sigma : c = capitalSigma
        · have small : ∀ final, lowerChar (smallSigma final) = [smallSigma final] := by
            decide +kernel
          rw [if_pos sigma, List.mem_singleton] at here
          rw [here]
          exact small _
        · rw [if_neg sigma] at here
          exact lowerChar_of_mem_lowerChar here
      · exact ih _ lowered later

/-- Nothing changes where everything is lowered, whatever came before. -/
theorem lowerAfter_of_isLowered (fixed : IsLowered text) : lowerAfter before text = text := by
  induction text generalizing before with
  | nil => rfl
  | cons c text ih =>
      have first : lowerChar c = [c] := fixed c List.mem_cons_self
      have rest : IsLowered text := fun other mem => fixed other (List.mem_cons_of_mem c mem)
      simp [lowerAfter, ne_capitalSigma_of_lowerChar first, first, ih rest]

theorem isLowered_commonForm (text : List Char) : IsLowered (commonForm text) := by
  intro c mem
  apply isLowered_lowerAfter [] text c
  exact (List.mem_filter.mp mem).1

theorem lower_commonForm (text : List Char) : lower (commonForm text) = commonForm text :=
  lowerAfter_of_isLowered (isLowered_commonForm text)

theorem isLetterOrNumber_of_mem_commonForm (mem : c ∈ commonForm text) : isLetterOrNumber c :=
  (List.mem_filter.mp mem).2

theorem commonForm_commonForm (text : List Char) :
    commonForm (commonForm text) = commonForm text := by
  have lowered : commonForm (commonForm text) =
      (lower (commonForm text)).filter isLetterOrNumber := rfl
  rw [lowered, lower_commonForm, List.filter_eq_self]
  intro c mem
  exact isLetterOrNumber_of_mem_commonForm mem

end Texts

end CommandUrl.Text

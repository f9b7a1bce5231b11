import CommandUrl.Note.Draft
import CommandUrl.Proofs.Text.Letters

/-!
# Separators and the common form

The common form has no separators in it, but it is not blind to them. A text is
lowered before it is stripped, and a capital sigma is lowered by what stands
around it: where it ends a word it becomes the final small sigma, which is
another letter than the small sigma inside a word. A separator that ends the word
after a sigma is gone from the common form, and the final sigma is still there.

This is all that separators can do. A text and its letters and numbers have the
same common form but for the choice between the two small sigmas, and the very
same one exactly if each capital sigma ends a word in both of them or in neither.
The proof goes through both texts in step, each with its own history, since what
has been passed matters to a sigma alone.
-/

namespace CommandUrl.Text

/-- A capital sigma between the two texts ends a word: a letter with case comes before it and none
comes after it, where the characters in between are looked through. -/
def endsWord (before after : List Char) : Bool :=
  meetsCased before.reverse && !meetsCased after

section Letters

variable {c : Char} (text : List Char)

theorem letters_cons_of_letter (letter : isLetterOrNumber c) :
    letters (c :: text) = c :: letters text := by
  simp [letters, letter]

theorem letters_cons_of_other (other : isLetterOrNumber c = false) :
    letters (c :: text) = letters text := by
  simp [letters, other]

theorem isLetterOrNumber_capitalSigma : isLetterOrNumber capitalSigma := by
  decide

theorem contextFree_letters : contextFree (letters text) = contextFree text := by
  induction text with
  | nil => rfl
  | cons c text ih =>
      rw [contextFree_cons c text]
      cases letter : isLetterOrNumber c with
      | true => rw [letters_cons_of_letter text letter, contextFree_cons, ih]
      | false =>
          have nothing : contextFree [c] = [] := by simp [contextFree, filter_lowerChar letter]
          rw [letters_cons_of_other text letter, ih, nothing, List.nil_append]

end Letters

theorem smallSigma_inj {left right : Bool} : smallSigma left = smallSigma right ↔ left = right := by
  revert left right
  decide

/-- What is asked of every place where a text has a character is asked of its first one and of every
place in the rest. -/
theorem forall_place_cons {c sought : Char} {text : List Char}
    {holds : List Char → List Char → Prop} :
    (∀ before after, c :: text = before ++ sought :: after → holds before after) ↔
      (c = sought → holds [] text) ∧
        ∀ before after, text = before ++ sought :: after → holds (c :: before) after := by
  constructor
  · intro everywhere
    constructor
    · rintro rfl
      exact everywhere [] text rfl
    · rintro before after rfl
      exact everywhere (c :: before) after rfl
  · rintro ⟨first, rest⟩ before after split
    cases before with
    | nil =>
        cases split
        exact first rfl
    | cons passed before =>
        cases split
        exact rest before after rfl

/-- Two texts in step, each with what has been passed of it, the nearest first: they leave the same
letters exactly if every capital sigma ends a word in both of them or in neither. -/
theorem filter_lowerAfter_eq_iff (passed kept text : List Char) :
    (lowerAfter passed text).filter isLetterOrNumber =
        (lowerAfter kept (letters text)).filter isLetterOrNumber ↔
      ∀ before after, text = before ++ capitalSigma :: after →
        endsWord (passed.reverse ++ before) after =
          endsWord (kept.reverse ++ letters before) (letters after) := by
  induction text generalizing passed kept with
  | nil => simp [letters, lowerAfter]
  | cons c text ih =>
      rw [forall_place_cons]
      by_cases sigma : c = capitalSigma
      · subst sigma
        have rest := ih (capitalSigma :: passed) (capitalSigma :: kept)
        simp only [letters_cons_of_letter _ isLetterOrNumber_capitalSigma, List.reverse_cons,
          List.append_assoc, List.singleton_append] at rest ⊢
        rw [← rest, filter_lowerAfter_sigma, filter_lowerAfter_sigma, List.cons.injEq,
          smallSigma_inj]
        simp [endsWord, letters]
      · cases letter : isLetterOrNumber c with
        | true =>
            have rest := ih (c :: passed) (c :: kept)
            simp only [letters_cons_of_letter _ letter, List.reverse_cons, List.append_assoc,
              List.singleton_append] at rest ⊢
            rw [← rest, filter_lowerAfter_of_ne passed _ sigma, filter_lowerAfter_of_ne kept _ sigma]
            simp [sigma]
        | false =>
            have rest := ih (c :: passed) kept
            simp only [letters_cons_of_other _ letter, List.reverse_cons, List.append_assoc,
              List.singleton_append] at rest ⊢
            rw [← rest, filter_lowerAfter_of_ne passed _ sigma, filter_lowerChar letter]
            simp [sigma]

end CommandUrl.Text

namespace CommandUrl

open Text

/-- The letters and numbers of a text, as they are written. -/
def letters (text : String) : String :=
  String.ofList (Text.letters text.toList)

section Strings

variable {text : String}

theorem commonForm_eq_iff_commonForm_letters :
    commonForm text = commonForm (letters text) ↔
      ∀ before after, text.toList = before ++ capitalSigma :: after →
        endsWord before after = endsWord (Text.letters before) (Text.letters after) := by
  have step := filter_lowerAfter_eq_iff [] [] text.toList
  rw [← String.toList_inj]
  simpa [commonForm, Text.commonForm, lower, letters] using step

theorem commonForm_letters_of_not_mem (absent : capitalSigma ∉ text.toList) :
    commonForm (letters text) = commonForm text := by
  symm
  apply commonForm_eq_iff_commonForm_letters.mpr
  intro before after split
  exact absurd (by simp [split]) absent

theorem capitalSigma_mem_letters :
    capitalSigma ∈ (letters text).toList ↔ capitalSigma ∈ text.toList := by
  simp [letters, Text.letters, isLetterOrNumber_capitalSigma]

end Strings

/-- A text and its letters and numbers have the same common form but for the choice between the two
small sigmas, and the same one exactly if every capital sigma that ends a word in one of them ends
one in the other. Without a capital sigma everything that is no letter and no number may be taken
away or put in. -/
theorem commonForm_ignores_separators (text : String) :
    (commonForm text).toList.map plainSigma = (commonForm (letters text)).toList.map plainSigma ∧
    (commonForm text = commonForm (letters text) ↔
      ∀ before after, text.toList = before ++ capitalSigma :: after →
        endsWord before after = endsWord (Text.letters before) (Text.letters after)) ∧
    (capitalSigma ∉ text.toList →
      ∀ other, letters other = letters text → commonForm other = commonForm text) := by
  refine ⟨?_, commonForm_eq_iff_commonForm_letters, ?_⟩
  · simp only [commonForm, letters, String.toList_ofList]
    rw [map_plainSigma_commonForm, map_plainSigma_commonForm, contextFree_letters]
  · intro absent other same
    have absentOther : capitalSigma ∉ other.toList := by
      rwa [← capitalSigma_mem_letters, same, capitalSigma_mem_letters]
    rw [← commonForm_letters_of_not_mem absent, ← commonForm_letters_of_not_mem absentOther, same]

theorem commonForm_ignores_separators_dash :
    capitalSigma ∉ "To-Do".toList ∧ letters "To Do" = letters "To-Do" ∧
      commonForm "To Do" = commonForm "To-Do" := by
  have absent : capitalSigma ∉ "To-Do".toList := by decide
  have same : letters "To Do" = letters "To-Do" := by decide +kernel
  rcases commonForm_ignores_separators "To-Do" with ⟨_, _, free⟩
  exact ⟨absent, same, free absent "To Do" same⟩

/-- Two words in capitals run together: the sigma that ended the first of them is final no more. -/
theorem not_commonForm_ignores_space : ¬ ∀ text, commonForm text = commonForm (letters text) := by
  intro ignores
  have same := ignores "ΑΣ Α"
  revert same
  decide +kernel

end CommandUrl

import CommandUrl.Proofs.Text.Percent
import CommandUrl.Text.CommonForm

/-!
# Escaping and the common form

Every character adds at most one letter or number to the common form of a text, while
its escapes add two for each of their bytes, the digits. So a text with something in it
that is escaped has a longer common form when it has been escaped, and names that are
matched by their common form are not found under it.
-/

namespace CommandUrl.Text

/-- The common form as it would be if no character looked at its neighbours. -/
def contextFree (text : List Char) : List Char :=
  text.flatMap fun c => (lowerChar c).filter isLetterOrNumber

theorem contextFree_cons (c : Char) (text : List Char) :
    contextFree (c :: text) = contextFree [c] ++ contextFree text := by
  simp [contextFree]

theorem contextFree_append (left right : List Char) :
    contextFree (left ++ right) = contextFree left ++ contextFree right := by
  simp [contextFree]

/-- The small sigma at the end of a word, or that inside a word. -/
def smallSigma (final : Bool) : Char :=
  if final then '\u03C2' else '\u03C3'

/-- The small sigma inside a word for either of the small sigmas. -/
def plainSigma (c : Char) : Char :=
  if c = '\u03C2' then '\u03C3' else c

section Lowering

variable {c : Char} (before text : List Char)

theorem filter_lowerAfter_sigma :
    (lowerAfter before (capitalSigma :: text)).filter isLetterOrNumber =
      smallSigma (meetsCased before && !meetsCased text) ::
        (lowerAfter (capitalSigma :: before) text).filter isLetterOrNumber := by
  have letter : ∀ final, isLetterOrNumber (smallSigma final) := by decide
  have lowered : lowerAfter before (capitalSigma :: text) =
      smallSigma (meetsCased before && !meetsCased text) ::
        lowerAfter (capitalSigma :: before) text := rfl
  rw [lowered, List.filter_cons_of_pos (letter _)]

theorem filter_lowerAfter_of_ne (other : c ≠ capitalSigma) :
    (lowerAfter before (c :: text)).filter isLetterOrNumber =
      (lowerChar c).filter isLetterOrNumber ++
        (lowerAfter (c :: before) text).filter isLetterOrNumber := by
  simp [lowerAfter, other]

end Lowering

/-- Without the difference between the small sigmas no character looks at its neighbours. -/
theorem map_plainSigma_commonForm (text : List Char) :
    (commonForm text).map plainSigma = (contextFree text).map plainSigma := by
  have sigma : ∀ final, [plainSigma (smallSigma final)] =
      (contextFree [capitalSigma]).map plainSigma := by
    decide
  -- what stands before decides which small sigma it is, and nothing else
  have after : ∀ before, ((lowerAfter before text).filter isLetterOrNumber).map plainSigma =
      (contextFree text).map plainSigma := by
    induction text with
    | nil => simp [lowerAfter, contextFree]
    | cons c text ih =>
        intro before
        rw [contextFree_cons, List.map_append]
        by_cases same : c = capitalSigma
        · subst same
          rw [filter_lowerAfter_sigma, List.map_cons, ih, ← sigma]
          rfl
        · rw [filter_lowerAfter_of_ne before text same, List.map_append, ih]
          simp [contextFree]
  exact after []

theorem length_commonForm (text : List Char) :
    (commonForm text).length = (contextFree text).length := by
  simpa using congrArg List.length (map_plainSigma_commonForm text)

set_option maxRecDepth 4000 in
theorem length_contextFree_le_one (c : Char) : (contextFree [c]).length ≤ 1 := by
  simp only [contextFree, List.flatMap_cons, List.flatMap_nil, List.append_nil]
  unfold lowerChar
  split
  · decide
  · exact List.length_filter_le _ _

set_option maxRecDepth 8000 in
theorem length_contextFree_hexDigit {value : Nat} (digit : value < 16) :
    (contextFree [Percent.hexDigit value]).length = 1 := by
  have each : ∀ digit : Fin 16, (contextFree [Percent.hexDigit digit]).length = 1 := by
    decide
  exact each ⟨value, digit⟩

set_option maxRecDepth 4000 in
/-- Of an escape the digits count, and the percent sign does not. -/
theorem length_contextFree_escape (byte : UInt8) :
    (contextFree (Percent.escape byte)).length = 2 := by
  have high : byte.toNat / 16 < 16 := by
    have bound := byte.toNat_lt
    omega
  have low : byte.toNat % 16 < 16 := Nat.mod_lt _ (by decide)
  have percent : (contextFree ['%']).length = 0 := by decide
  have first := length_contextFree_hexDigit high
  have second := length_contextFree_hexDigit low
  have whole : Percent.escape byte =
      ['%'] ++ [Percent.hexDigit (byte.toNat / 16)] ++ [Percent.hexDigit (byte.toNat % 16)] := rfl
  rw [whole, contextFree_append, contextFree_append, List.length_append, List.length_append]
  omega

theorem length_contextFree_escapes (bytes : List UInt8) :
    (contextFree (bytes.flatMap Percent.escape)).length = 2 * bytes.length := by
  induction bytes with
  | nil => rfl
  | cons byte bytes ih =>
      have first := length_contextFree_escape byte
      rw [List.flatMap_cons, contextFree_append, List.length_append, List.length_cons]
      omega

section Escaping

variable {set : Char → Bool} {c : Char}

/-- A character that is escaped adds more to the common form than it did. -/
theorem length_contextFree_lt (escaped : ¬ (c.toNat < 0x80 ∧ set c = false)) :
    (contextFree [c]).length < (contextFree (Percent.encodeChar set c)).length := by
  have written : Percent.encodeChar set c = (Utf8.encodeChar c).flatMap Percent.escape := by
    have outside : (decide (0x80 ≤ c.toNat) || set c) = true := by
      rcases Nat.lt_or_ge c.toNat 0x80 with small | large
      · cases member : set c with
        | false => exact absurd ⟨small, member⟩ escaped
        | true => simp
      · simp [large]
    unfold Percent.encodeChar
    rw [if_pos outside]
  have bytes : 0 < (Utf8.encodeChar c).length := by
    rw [Utf8.encodeChar_eq, List.length_pos_iff]
    exact String.utf8EncodeChar_ne_nil
  have most := length_contextFree_le_one c
  rw [written, length_contextFree_escapes]
  omega

theorem length_contextFree_le_encodeChar (set : Char → Bool) (c : Char) :
    (contextFree [c]).length ≤ (contextFree (Percent.encodeChar set c)).length := by
  by_cases kept : c.toNat < 0x80 ∧ set c = false
  · have same := Percent.encodeChar_of_kept kept.1 kept.2
    exact Nat.le_of_eq (congrArg (fun text => (contextFree text).length) same.symm)
  · exact Nat.le_of_lt (length_contextFree_lt kept)

theorem length_contextFree_le_encode (set : Char → Bool) (text : List Char) :
    (contextFree text).length ≤ (contextFree (Percent.encode set text)).length := by
  induction text with
  | nil => exact Nat.le_refl 0
  | cons c text ih =>
      rw [contextFree_cons, Percent.encode_cons, contextFree_append, List.length_append,
        List.length_append]
      exact Nat.add_le_add (length_contextFree_le_encodeChar set c) ih

theorem length_commonForm_lt {text : List Char}
    (escaped : ∃ c ∈ text, ¬ (c.toNat < 0x80 ∧ set c = false)) :
    (commonForm text).length < (commonForm (Percent.encode set text)).length := by
  rcases escaped with ⟨c, mem, escaped⟩
  rcases List.append_of_mem mem with ⟨before, after, rfl⟩
  have first := length_contextFree_le_encode set before
  have more := length_contextFree_lt escaped
  have last := length_contextFree_le_encode set after
  rw [length_commonForm, length_commonForm, contextFree_append, contextFree_cons,
    Percent.encode_append, Percent.encode_cons, contextFree_append, contextFree_append]
  simp only [List.length_append]
  omega

end Escaping

end CommandUrl.Text

import CommandUrl.Proofs.Text.Utf8
import CommandUrl.Text.Percent

/-!
# Percent escapes are read back

There are many ways to write the same text: an escape may have its digits in
either case, and most characters may be escaped or not. What a written text
stands for is a matter of its parts, so the relation `Percent.Spells` says of a
part that it stands for some bytes wherever it occurs, and parts are put
together by `Spells.append`. Escaping a written text once more, as an address
does with its query, leaves the escapes alone and does not change what the other
characters stand for.
-/

namespace CommandUrl.Percent

/-- The text consists of the escapes of the bytes, with hexadecimal digits in either case. -/
inductive Escapes : List UInt8 → List Char → Prop where
  | nil : Escapes [] []
  | cons {high low : Char} {upper lower : Nat} {bytes : List UInt8} {text : List Char}
      (first : hexValue? high = some upper) (second : hexValue? low = some lower)
      (rest : Escapes bytes text) :
      Escapes (UInt8.ofNat (16 * upper + lower) :: bytes) ('%' :: high :: low :: text)

/-- A character that occurs in escapes. -/
def isEscapeChar (c : Char) : Bool :=
  c = '%' || (hexValue? c).isSome

/-- The text stands for the bytes, whatever comes after it. -/
def Spells (spelled : List UInt8) (text : List Char) : Prop :=
  ∀ rest, bytes (text ++ rest) = spelled ++ bytes rest ∧ wellFormed (text ++ rest) = wellFormed rest

section Digits

theorem hexValue?_hexDigit {value : Nat} (digit : value < 16) :
    hexValue? (hexDigit value) = some value := by
  have all : ∀ value : Fin 16, hexValue? (hexDigit value) = some value.val := by decide
  exact all ⟨value, digit⟩

theorem escapes_escape (byte : UInt8) : Escapes [byte] (escape byte) := by
  have bounded : byte.toNat < 256 := byte.toNat_lt
  have upper : byte.toNat / 16 < 16 := by omega
  have lower : byte.toNat % 16 < 16 := by omega
  have whole : UInt8.ofNat (16 * (byte.toNat / 16) + byte.toNat % 16) = byte := by
    rw [Nat.div_add_mod, UInt8.ofNat_toNat]
  have escapes : Escapes _ (escape byte) :=
    .cons (hexValue?_hexDigit upper) (hexValue?_hexDigit lower) .nil
  rwa [whole] at escapes

theorem isEscapeChar_of_hexValue? {c : Char} {value : Nat} (digit : hexValue? c = some value) :
    isEscapeChar c := by
  simp [isEscapeChar, digit]

theorem isEscapeChar_of_escapes {bytes : List UInt8} {text : List Char}
    (escapes : Escapes bytes text) : ∀ c ∈ text, isEscapeChar c := by
  induction escapes with
  | nil => simp
  | cons first second _ ih =>
      intro c mem
      simp only [List.mem_cons] at mem
      rcases mem with rfl | rfl | rfl | mem
      · rfl
      · exact isEscapeChar_of_hexValue? first
      · exact isEscapeChar_of_hexValue? second
      · exact ih c mem

theorem toNat_of_isEscapeChar {c : Char} (escape : isEscapeChar c) :
    c.toNat = 0x25 ∨ 0x30 ≤ c.toNat ∧ c.toNat ≤ 0x39 ∨ 0x41 ≤ c.toNat ∧ c.toNat ≤ 0x46 ∨
      0x61 ≤ c.toNat ∧ c.toNat ≤ 0x66 := by
  simp only [isEscapeChar, Bool.or_eq_true, decide_eq_true_eq] at escape
  rcases escape with rfl | digit
  · exact Or.inl rfl
  · unfold hexValue? at digit
    split at digit
    · next decimal => exact Or.inr (Or.inl decimal)
    · split at digit
      · next small => exact Or.inr (Or.inr (Or.inr small))
      · split at digit
        · next capital => exact Or.inr (Or.inr (Or.inl capital))
        · cases digit

end Digits

namespace Spells

variable {first second : List UInt8} {left right text value : List Char} {c : Char}

theorem nil : Spells [] [] :=
  fun _ => ⟨rfl, rfl⟩

theorem append (start : Spells first left) (rest : Spells second right) :
    Spells (first ++ second) (left ++ right) := by
  intro tail
  rcases start (right ++ tail) with ⟨startBytes, startFormed⟩
  rcases rest tail with ⟨restBytes, restFormed⟩
  constructor
  · rw [List.append_assoc, startBytes, restBytes, List.append_assoc]
  · rw [List.append_assoc, startFormed, restFormed]

theorem of_ne (plain : c ≠ '%') : Spells (Utf8.encodeChar c) [c] := by
  intro rest
  rw [List.singleton_append]
  constructor
  · rw [bytes]
    intro high low tail impossible
    exact absurd impossible plain
  · rw [wellFormed]
    · simp [plain]
    · intro high low tail impossible
      exact absurd impossible plain

theorem of_escapes (escapes : Escapes first text) : Spells first text := by
  induction escapes with
  | nil => exact nil
  | cons highDigit lowDigit _ ih =>
      intro rest
      rcases ih rest with ⟨restBytes, restFormed⟩
      constructor
      · simp only [List.cons_append, bytes, highDigit, lowDigit, restBytes]
      · simp only [List.cons_append, wellFormed, highDigit, lowDigit, restFormed]
        rfl

theorem flatMap_escape (escaped : List UInt8) : Spells escaped (escaped.flatMap escape) := by
  induction escaped with
  | nil => exact nil
  | cons byte escaped ih =>
      rw [List.flatMap_cons]
      exact append (of_escapes (escapes_escape byte)) ih

/-- Whether it is escaped or not, a character stands for itself. -/
theorem encodeChar (set : Char → Bool) (plain : c ≠ '%') :
    Spells (Utf8.encodeChar c) (Percent.encodeChar set c) := by
  unfold Percent.encodeChar
  split
  -- a character has the same bytes raw as its escapes have
  · exact flatMap_escape (Utf8.encodeChar c)
  · exact of_ne plain

/-- Text that stands for the bytes of a value is decoded to that value. -/
theorem decode? (spells : Spells (Utf8.encode value) text) :
    Percent.decode? text = some value := by
  rcases spells [] with ⟨spelled, formed⟩
  rw [List.append_nil] at spelled formed
  rw [Percent.decode?, formed, spelled]
  simp only [bytes, List.append_nil, Utf8.decode?_encode]
  rfl

end Spells

section Encode

variable {set : Char → Bool} {text : List Char}

theorem encodeChar_of_kept {c : Char} (ascii : c.toNat < 0x80) (kept : set c = false) :
    encodeChar set c = [c] := by
  have small : ¬ 0x80 ≤ c.toNat := by omega
  simp [encodeChar, small, kept]

theorem encode_of_kept (kept : ∀ c ∈ text, c.toNat < 0x80 ∧ set c = false) :
    encode set text = text := by
  induction text with
  | nil => rfl
  | cons c text ih =>
      rcases kept c (by simp) with ⟨ascii, unescaped⟩
      rw [encode_cons, encodeChar_of_kept ascii unescaped,
        ih fun other mem => kept other (by simp [mem]), List.singleton_append]

theorem mem_encode {c : Char} (mem : c ∈ encode set text) : c ∈ text ∨ isEscapeChar c := by
  simp only [encode, List.mem_flatMap] at mem
  rcases mem with ⟨source, sourceMem, mem⟩
  unfold encodeChar at mem
  split at mem
  · simp only [List.mem_flatMap] at mem
    rcases mem with ⟨byte, _, mem⟩
    exact Or.inr (isEscapeChar_of_escapes (escapes_escape byte) c mem)
  · simp only [List.mem_singleton] at mem
    exact Or.inl (mem ▸ sourceMem)

/-- A character is written as it is, or in escapes, of which there is at least one. -/
theorem encodeChar_cases (set : Char → Bool) (c : Char) :
    (c.toNat < 0x80 ∧ set c = false) ∧ encodeChar set c = [c] ∨
      ∃ escapes, encodeChar set c = '%' :: escapes ∧ ∀ other ∈ '%' :: escapes, isEscapeChar other := by
  unfold encodeChar
  split
  · right
    rcases written : Utf8.encodeChar c with _ | ⟨byte, bytes⟩
    · rw [Utf8.encodeChar_eq] at written
      exact absurd written (String.utf8EncodeChar_ne_nil)
    · have all : ∀ other ∈ (byte :: bytes).flatMap escape, isEscapeChar other := by
        intro other mem
        rcases List.mem_flatMap.mp mem with ⟨source, _, inside⟩
        exact isEscapeChar_of_escapes (escapes_escape source) other inside
      exact ⟨_, rfl, all⟩
  · next kept =>
      left
      simp only [Bool.or_eq_true, decide_eq_true_eq, not_or, Nat.not_le, Bool.not_eq_true] at kept
      exact ⟨kept, rfl⟩

theorem kept_of_mem_encode {c : Char} (mem : c ∈ encode set text) :
    (c.toNat < 0x80 ∧ set c = false) ∨ isEscapeChar c := by
  rcases List.mem_flatMap.mp mem with ⟨source, _, inside⟩
  rcases encodeChar_cases set source with ⟨kept, raw⟩ | ⟨escapes, escaped, all⟩
  · rw [raw, List.mem_singleton] at inside
    exact Or.inl (inside ▸ kept)
  · rw [escaped] at inside
    exact Or.inr (all c inside)

theorem eq_nil_of_encode (empty : encode set text = []) : text = [] := by
  cases text with
  | nil => rfl
  | cons c text =>
      rcases encodeChar_cases set c with ⟨_, raw⟩ | ⟨_, escaped, _⟩
      · simp [raw] at empty
      · simp [escaped] at empty

/-- What an escaped text starts with was there before, as far as there is no percent sign in it. -/
theorem split_of_encode {before after : List Char} (split : encode set text = before ++ after)
    (plain : '%' ∉ before) : ∃ rest, text = before ++ rest ∧ encode set rest = after := by
  induction before generalizing text with
  | nil => exact ⟨text, rfl, split⟩
  | cons c before ih =>
      rw [List.mem_cons, not_or] at plain
      cases text with
      | nil => simp at split
      | cons first text =>
          rw [encode_cons] at split
          rcases encodeChar_cases set first with ⟨_, raw⟩ | ⟨_, escaped, _⟩
          · rw [raw, List.singleton_append, List.cons_append, List.cons.injEq] at split
            rcases split with ⟨rfl, split⟩
            rcases ih split plain.2 with ⟨rest, rfl, encoded⟩
            exact ⟨rest, rfl, encoded⟩
          · rw [escaped, List.cons_append, List.cons_append, List.cons.injEq] at split
            exact absurd split.1 plain.1

section Cut

variable {goes : Char → Bool}

/-- Where a text is cut at a character that is not escaped, it is cut in the same place when it has
been escaped. -/
theorem takeWhile_encode (escapes : ∀ c, isEscapeChar c → goes c)
    (kept : ∀ c ∈ text, goes c = false → encodeChar set c = [c]) :
    (encode set text).takeWhile goes = encode set (text.takeWhile goes) ∧
      (encode set text).dropWhile goes = encode set (text.dropWhile goes) := by
  induction text with
  | nil => exact ⟨rfl, rfl⟩
  | cons c text ih =>
      rcases ih fun other mem => kept other (List.mem_cons_of_mem c mem) with ⟨taken, dropped⟩
      cases goesOn : goes c with
      | false =>
          rw [encode_cons, kept c List.mem_cons_self goesOn]
          simp [goesOn, kept c List.mem_cons_self goesOn]
      | true =>
          have all : ∀ other ∈ encodeChar set c, goes other := by
            intro other mem
            rcases encodeChar_cases set c with ⟨_, raw⟩ | ⟨_, escaped, inside⟩
            · rw [raw, List.mem_singleton] at mem
              rw [mem, goesOn]
            · rw [escaped] at mem
              exact escapes other (inside other mem)
          rw [encode_cons, List.takeWhile_append_of_pos all, List.dropWhile_append_of_pos all,
            taken, dropped]
          simp [goesOn]

end Cut

end Encode

end CommandUrl.Percent

import CommandUrl.Text.Utf8

/-!
# UTF-8 is read back

The lead byte of a character narrows the interval of the byte after it, and the
interval is wide enough for every character that is not written in fewer bytes
and is no surrogate. Reading therefore passes through the bytes of a character
without breaking off, and has spelled its code point at the end.

The interval is not wider than that either. What reading makes of some bytes is
a character that would have been written in just these bytes, so bytes have a
meaning only if they are the ones of a text.
-/

namespace CommandUrl.Utf8

theorem toNat_lt_or (c : Char) : c.toNat < 0xD800 ∨ 0xDFFF < c.toNat ∧ c.toNat < 0x110000 :=
  c.valid

/-- The bytes of a character are the ones that the standard library gives it. -/
theorem encodeChar_eq (c : Char) : encodeChar c = String.utf8EncodeChar c := by
  have valid := toNat_lt_or c
  have shown : c.val.toNat = c.toNat := rfl
  simp only [encodeChar, String.utf8EncodeChar, shown]
  generalize c.toNat = code at valid ⊢
  split
  · next one => rw [if_pos (by omega)]
  · next notOne =>
      split
      · next two =>
          have lead : code / 0x40 % 0x20 = code / 0x40 := by omega
          rw [if_neg (by omega), if_pos (by omega), lead, Nat.add_comm (code / 0x40),
            Nat.add_comm (code % 0x40)]
      · next notTwo =>
          split
          · next three =>
              have lead : code / 0x1000 % 0x10 = code / 0x1000 := by omega
              rw [if_neg (by omega), if_neg (by omega), if_pos (by omega), lead,
                Nat.add_comm (code / 0x1000), Nat.add_comm (code / 0x40 % 0x40),
                Nat.add_comm (code % 0x40)]
          · next notThree =>
              have lead : code / 0x40000 % 8 = code / 0x40000 := by omega
              rw [if_neg (by omega), if_neg (by omega), if_neg (by omega), lead,
                Nat.add_comm (code / 0x40000), Nat.add_comm (code / 0x1000 % 0x40),
                Nat.add_comm (code / 0x40 % 0x40), Nat.add_comm (code % 0x40)]

theorem encode_eq (text : List Char) : encode text = text.flatMap String.utf8EncodeChar := by
  rw [encode, funext encodeChar_eq]

theorem toNat_ofNat {value : Nat} (byte : value < 0x100) : (UInt8.ofNat value).toNat = value :=
  UInt8.toNat_ofNat_of_lt' byte

theorem encodeChar_of_ascii {c : Char} (ascii : c.toNat < 0x80) :
    encodeChar c = [UInt8.ofNat c.toNat] := by
  simp only [encodeChar, if_pos ascii]

/-- No byte of a character outside ASCII is a character of ASCII. -/
theorem toNat_of_mem_encodeChar {c : Char} {byte : UInt8} (high : 0x80 ≤ c.toNat)
    (mem : byte ∈ encodeChar c) : 0x80 ≤ byte.toNat := by
  have valid := toNat_lt_or c
  unfold encodeChar at mem
  dsimp only at mem
  generalize c.toNat = code at high valid mem
  rw [if_neg (by omega)] at mem
  split at mem
  · simp only [List.mem_cons, List.not_mem_nil, or_false] at mem
    rcases mem with rfl | rfl
    all_goals
      rw [toNat_ofNat (by omega)]
      omega
  split at mem
  · simp only [List.mem_cons, List.not_mem_nil, or_false] at mem
    rcases mem with rfl | rfl | rfl
    all_goals
      rw [toNat_ofNat (by omega)]
      omega
  · simp only [List.mem_cons, List.not_mem_nil, or_false] at mem
    rcases mem with rfl | rfl | rfl | rfl
    all_goals
      rw [toNat_ofNat (by omega)]
      omega

section Start

variable {code : Nat}

theorem start_of_ascii (ascii : code < 0x80) :
    start (UInt8.ofNat code) = .complete (Char.ofNat code) := by
  have value : (UInt8.ofNat code).toNat = code := toNat_ofNat (by omega)
  simp only [start, value, if_pos ascii]

theorem start_of_two (least : 0x80 ≤ code) (most : code < 0x800) :
    start (UInt8.ofNat (0xC0 + code / 0x40)) = .more ⟨code / 0x40, 0, 0x80, 0xBF⟩ := by
  have value : (UInt8.ofNat (0xC0 + code / 0x40)).toNat = 0xC0 + code / 0x40 :=
    toNat_ofNat (by omega)
  simp only [start, value]
  rw [if_neg (by omega), if_neg (by omega), if_pos (by omega), Nat.add_sub_cancel_left]

theorem start_of_three (least : 0x800 ≤ code) (most : code < 0x10000)
    (valid : code < 0xD800 ∨ 0xDFFF < code) :
    ∃ low high, start (UInt8.ofNat (0xE0 + code / 0x1000)) =
        .more ⟨code / 0x1000, 1, low, high⟩ ∧
      low ≤ 0x80 + code / 0x40 % 0x40 ∧ 0x80 + code / 0x40 % 0x40 ≤ high := by
  have value : (UInt8.ofNat (0xE0 + code / 0x1000)).toNat = 0xE0 + code / 0x1000 :=
    toNat_ofNat (by omega)
  refine ⟨if 0xE0 + code / 0x1000 = 0xE0 then 0xA0 else 0x80,
    if 0xE0 + code / 0x1000 = 0xED then 0x9F else 0xBF, ?_, ?_, ?_⟩
  · simp only [start, value]
    rw [if_neg (by omega), if_neg (by omega), if_neg (by omega), if_pos (by omega),
      Nat.add_sub_cancel_left]
  · split <;> omega
  · split <;> omega

theorem start_of_four (least : 0x10000 ≤ code) (most : code < 0x110000) :
    ∃ low high, start (UInt8.ofNat (0xF0 + code / 0x40000)) =
        .more ⟨code / 0x40000, 2, low, high⟩ ∧
      low ≤ 0x80 + code / 0x1000 % 0x40 ∧ 0x80 + code / 0x1000 % 0x40 ≤ high := by
  have value : (UInt8.ofNat (0xF0 + code / 0x40000)).toNat = 0xF0 + code / 0x40000 :=
    toNat_ofNat (by omega)
  refine ⟨if 0xF0 + code / 0x40000 = 0xF0 then 0x90 else 0x80,
    if 0xF0 + code / 0x40000 = 0xF4 then 0x8F else 0xBF, ?_, ?_, ?_⟩
  · simp only [start, value]
    rw [if_neg (by omega), if_neg (by omega), if_neg (by omega), if_neg (by omega),
      if_pos (by omega), Nat.add_sub_cancel_left]
  · split <;> omega
  · split <;> omega

end Start

section Next

variable {value later low high digit : Nat}

theorem toNat_continuation (digit : Nat) :
    (UInt8.ofNat (0x80 + digit % 0x40)).toNat = 0x80 + digit % 0x40 :=
  toNat_ofNat (by omega)

theorem continuation_le (digit : Nat) :
    0x80 ≤ 0x80 + digit % 0x40 ∧ 0x80 + digit % 0x40 ≤ 0xBF := by
  omega

theorem next_of_more (above : low ≤ 0x80 + digit % 0x40) (below : 0x80 + digit % 0x40 ≤ high) :
    (Pending.mk value (later + 1) low high).next (UInt8.ofNat (0x80 + digit % 0x40)) =
      .more ⟨value * 0x40 + digit % 0x40, later, 0x80, 0xBF⟩ := by
  simp only [Pending.next, toNat_continuation]
  rw [if_neg (by omega), Nat.add_sub_cancel_left]

theorem next_of_last (above : low ≤ 0x80 + digit % 0x40) (below : 0x80 + digit % 0x40 ≤ high) :
    (Pending.mk value 0 low high).next (UInt8.ofNat (0x80 + digit % 0x40)) =
      .complete (Char.ofNat (value * 0x40 + digit % 0x40)) := by
  simp only [Pending.next, toNat_continuation]
  rw [if_neg (by omega), Nat.add_sub_cancel_left]

end Next

section Decode

variable {pending rest : Pending} {byte : UInt8} {bytes : List UInt8} {c : Char}

theorem decodeFrom?_start_complete (read : start byte = .complete c) :
    decodeFrom? none (byte :: bytes) = (decodeFrom? none bytes).map (c :: ·) := by
  simp only [decodeFrom?, Option.elim, read]

theorem decodeFrom?_start_more (read : start byte = .more rest) :
    decodeFrom? none (byte :: bytes) = decodeFrom? (some rest) bytes := by
  simp only [decodeFrom?, Option.elim, read]

theorem decodeFrom?_next_complete (read : pending.next byte = .complete c) :
    decodeFrom? (some pending) (byte :: bytes) = (decodeFrom? none bytes).map (c :: ·) := by
  simp only [decodeFrom?, Option.elim, read]

theorem decodeFrom?_next_more (read : pending.next byte = .more rest) :
    decodeFrom? (some pending) (byte :: bytes) = decodeFrom? (some rest) bytes := by
  simp only [decodeFrom?, Option.elim, read]

section Lengths

variable {code : Nat}

theorem decodeFrom?_two (least : 0x80 ≤ code) (most : code < 0x800) :
    decodeFrom? none (UInt8.ofNat (0xC0 + code / 0x40) :: UInt8.ofNat (0x80 + code % 0x40) ::
      bytes) = (decodeFrom? none bytes).map (Char.ofNat code :: ·) := by
  have spelled : code / 0x40 * 0x40 + code % 0x40 = code := by omega
  rcases continuation_le code with ⟨above, below⟩
  rw [decodeFrom?_start_more (start_of_two least most),
    decodeFrom?_next_complete (next_of_last above below), spelled]

theorem decodeFrom?_three (least : 0x800 ≤ code) (most : code < 0x10000)
    (valid : code < 0xD800 ∨ 0xDFFF < code) :
    decodeFrom? none (UInt8.ofNat (0xE0 + code / 0x1000) ::
      UInt8.ofNat (0x80 + code / 0x40 % 0x40) :: UInt8.ofNat (0x80 + code % 0x40) :: bytes) =
        (decodeFrom? none bytes).map (Char.ofNat code :: ·) := by
  have spelled : (code / 0x1000 * 0x40 + code / 0x40 % 0x40) * 0x40 + code % 0x40 = code := by
    omega
  -- the lead byte fixes the interval of the byte after it, which the digits of the code lie in
  rcases start_of_three least most valid with ⟨low, high, lead, above, below⟩
  rcases continuation_le code with ⟨lastAbove, lastBelow⟩
  rw [decodeFrom?_start_more lead, decodeFrom?_next_more (next_of_more above below),
    decodeFrom?_next_complete (next_of_last lastAbove lastBelow), spelled]

theorem decodeFrom?_four (least : 0x10000 ≤ code) (most : code < 0x110000) :
    decodeFrom? none (UInt8.ofNat (0xF0 + code / 0x40000) ::
      UInt8.ofNat (0x80 + code / 0x1000 % 0x40) :: UInt8.ofNat (0x80 + code / 0x40 % 0x40) ::
      UInt8.ofNat (0x80 + code % 0x40) :: bytes) =
        (decodeFrom? none bytes).map (Char.ofNat code :: ·) := by
  have spelled : ((code / 0x40000 * 0x40 + code / 0x1000 % 0x40) * 0x40 + code / 0x40 % 0x40) *
      0x40 + code % 0x40 = code := by
    omega
  rcases start_of_four least most with ⟨low, high, lead, above, below⟩
  rcases continuation_le (code / 0x40) with ⟨nextAbove, nextBelow⟩
  rcases continuation_le code with ⟨lastAbove, lastBelow⟩
  rw [decodeFrom?_start_more lead, decodeFrom?_next_more (next_of_more above below),
    decodeFrom?_next_more (next_of_more nextAbove nextBelow),
    decodeFrom?_next_complete (next_of_last lastAbove lastBelow), spelled]

end Lengths

/-- The bytes of a character spell the character. -/
theorem decodeFrom?_encodeChar (c : Char) (bytes : List UInt8) :
    decodeFrom? none (encodeChar c ++ bytes) = (decodeFrom? none bytes).map (c :: ·) := by
  have valid := toNat_lt_or c
  -- the bytes spell a code point, and a character is given by its code point
  have same : Char.ofNat c.toNat = c := Char.ofNat_toNat c
  unfold encodeChar
  dsimp only
  split
  · next one =>
      rw [List.singleton_append, decodeFrom?_start_complete (start_of_ascii one), same]
  · next notOne =>
      split
      · next two =>
          simp only [List.cons_append, List.nil_append]
          rw [decodeFrom?_two (Nat.le_of_not_lt notOne) two, same]
      · next notTwo =>
          split
          · next three =>
              have unpaired : c.toNat < 0xD800 ∨ 0xDFFF < c.toNat := by omega
              simp only [List.cons_append, List.nil_append]
              rw [decodeFrom?_three (Nat.le_of_not_lt notTwo) three unpaired, same]
          · next notThree =>
              have most : c.toNat < 0x110000 := by omega
              simp only [List.cons_append, List.nil_append]
              rw [decodeFrom?_four (Nat.le_of_not_lt notThree) most, same]

/-- What was encoded is decoded again. -/
theorem decode?_encode (text : List Char) : decode? (encode text) = some text := by
  unfold decode?
  induction text with
  | nil => rfl
  | cons c text ih => rw [encode_cons, decodeFrom?_encodeChar, ih, Option.map_some]

end Decode

section Written

theorem toNat_of_code {code : Nat} (valid : code < 0xD800 ∨ 0xDFFF < code ∧ code < 0x110000) :
    (Char.ofNat code).toNat = code := by
  rw [Char.ofNat, dif_pos valid]
  rfl

theorem eq_ofNat {byte : UInt8} {value : Nat} (same : value = byte.toNat) :
    UInt8.ofNat value = byte := by
  rw [same, UInt8.ofNat_toNat]

variable {lead second third last : UInt8}

theorem encodeChar_of_one (most : lead.toNat < 0x80) :
    encodeChar (Char.ofNat lead.toNat) = [lead] := by
  have valid : (Char.ofNat lead.toNat).toNat = lead.toNat := toNat_of_code (by omega)
  simp only [encodeChar, valid, if_pos most, UInt8.ofNat_toNat]

theorem encodeChar_of_two (least : 0xC2 ≤ lead.toNat) (most : lead.toNat < 0xE0)
    (above : 0x80 ≤ last.toNat) (below : last.toNat ≤ 0xBF) :
    encodeChar (Char.ofNat ((lead.toNat - 0xC0) * 0x40 + (last.toNat - 0x80))) = [lead, last] := by
  generalize spelled : (lead.toNat - 0xC0) * 0x40 + (last.toNat - 0x80) = code
  have valid : (Char.ofNat code).toNat = code := toNat_of_code (by omega)
  have sameLead : UInt8.ofNat (0xC0 + code / 0x40) = lead := eq_ofNat (by omega)
  have sameLast : UInt8.ofNat (0x80 + code % 0x40) = last := eq_ofNat (by omega)
  simp only [encodeChar, valid]
  rw [if_neg (by omega), if_pos (by omega), sameLead, sameLast]

theorem encodeChar_of_three (least : 0xE0 ≤ lead.toNat) (most : lead.toNat < 0xF0)
    (above : (if lead.toNat = 0xE0 then 0xA0 else 0x80) ≤ second.toNat)
    (below : second.toNat ≤ if lead.toNat = 0xED then 0x9F else 0xBF)
    (lastAbove : 0x80 ≤ last.toNat) (lastBelow : last.toNat ≤ 0xBF) :
    encodeChar (Char.ofNat (((lead.toNat - 0xE0) * 0x40 + (second.toNat - 0x80)) * 0x40 +
      (last.toNat - 0x80))) = [lead, second, last] := by
  generalize spelled : ((lead.toNat - 0xE0) * 0x40 + (second.toNat - 0x80)) * 0x40 +
    (last.toNat - 0x80) = code
  have inside : 0x80 ≤ second.toNat ∧ second.toNat ≤ 0xBF := by
    split at above <;> split at below <;> omega
  -- the narrow intervals leave out the codes of fewer bytes and the surrogates
  have least : 0x800 ≤ code := by
    split at above <;> omega
  have paired : code < 0xD800 ∨ 0xDFFF < code := by
    split at below <;> omega
  have valid : (Char.ofNat code).toNat = code := toNat_of_code (by omega)
  have sameLead : UInt8.ofNat (0xE0 + code / 0x1000) = lead := eq_ofNat (by omega)
  have sameSecond : UInt8.ofNat (0x80 + code / 0x40 % 0x40) = second := eq_ofNat (by omega)
  have sameLast : UInt8.ofNat (0x80 + code % 0x40) = last := eq_ofNat (by omega)
  simp only [encodeChar, valid]
  rw [if_neg (by omega), if_neg (by omega), if_pos (by omega), sameLead, sameSecond, sameLast]

theorem encodeChar_of_four (least : 0xF0 ≤ lead.toNat) (most : lead.toNat < 0xF5)
    (above : (if lead.toNat = 0xF0 then 0x90 else 0x80) ≤ second.toNat)
    (below : second.toNat ≤ if lead.toNat = 0xF4 then 0x8F else 0xBF)
    (nextAbove : 0x80 ≤ third.toNat) (nextBelow : third.toNat ≤ 0xBF)
    (lastAbove : 0x80 ≤ last.toNat) (lastBelow : last.toNat ≤ 0xBF) :
    encodeChar (Char.ofNat ((((lead.toNat - 0xF0) * 0x40 + (second.toNat - 0x80)) * 0x40 +
      (third.toNat - 0x80)) * 0x40 + (last.toNat - 0x80))) = [lead, second, third, last] := by
  generalize spelled : (((lead.toNat - 0xF0) * 0x40 + (second.toNat - 0x80)) * 0x40 +
    (third.toNat - 0x80)) * 0x40 + (last.toNat - 0x80) = code
  have inside : 0x80 ≤ second.toNat ∧ second.toNat ≤ 0xBF := by
    split at above <;> split at below <;> omega
  -- the narrow intervals leave out the codes of fewer bytes and those above the last
  have least : 0x10000 ≤ code := by
    split at above <;> omega
  have most : code < 0x110000 := by
    split at below <;> omega
  have valid : (Char.ofNat code).toNat = code := toNat_of_code (by omega)
  have sameLead : UInt8.ofNat (0xF0 + code / 0x40000) = lead := eq_ofNat (by omega)
  have sameSecond : UInt8.ofNat (0x80 + code / 0x1000 % 0x40) = second := eq_ofNat (by omega)
  have sameThird : UInt8.ofNat (0x80 + code / 0x40 % 0x40) = third := eq_ofNat (by omega)
  have sameLast : UInt8.ofNat (0x80 + code % 0x40) = last := eq_ofNat (by omega)
  simp only [encodeChar, valid]
  rw [if_neg (by omega), if_neg (by omega), if_neg (by omega), sameLead, sameSecond, sameThird,
    sameLast]

end Written

section Readings

variable {bytes : List UInt8} {text : List Char}

/-- What reading a first byte can come to. -/
theorem start_cases (byte : UInt8) :
    start byte = .broken ∨
    (byte.toNat < 0x80 ∧ start byte = .complete (Char.ofNat byte.toNat)) ∨
    (0xC2 ≤ byte.toNat ∧ byte.toNat < 0xE0 ∧
      start byte = .more ⟨byte.toNat - 0xC0, 0, 0x80, 0xBF⟩) ∨
    (0xE0 ≤ byte.toNat ∧ byte.toNat < 0xF0 ∧
      start byte = .more ⟨byte.toNat - 0xE0, 1, if byte.toNat = 0xE0 then 0xA0 else 0x80,
        if byte.toNat = 0xED then 0x9F else 0xBF⟩) ∨
    (0xF0 ≤ byte.toNat ∧ byte.toNat < 0xF5 ∧
      start byte = .more ⟨byte.toNat - 0xF0, 2, if byte.toNat = 0xF0 then 0x90 else 0x80,
        if byte.toNat = 0xF4 then 0x8F else 0xBF⟩) := by
  unfold start
  dsimp only
  split
  · next ascii => exact Or.inr (Or.inl ⟨ascii, rfl⟩)
  split
  · exact Or.inl rfl
  split
  · exact Or.inr (Or.inr (Or.inl ⟨by omega, by omega, rfl⟩))
  split
  · exact Or.inr (Or.inr (Or.inr (Or.inl ⟨by omega, by omega, rfl⟩)))
  split
  · exact Or.inr (Or.inr (Or.inr (Or.inr ⟨by omega, by omega, rfl⟩)))
  · exact Or.inl rfl

/-- Bytes that go on with a character have a first one in the interval, and it is the last of the
character unless more are expected. -/
theorem decodeFrom?_some {value later least most : Nat}
    (read : decodeFrom? (some ⟨value, later, least, most⟩) bytes = some text) :
    ∃ byte rest, bytes = byte :: rest ∧ least ≤ byte.toNat ∧ byte.toNat ≤ most ∧
      match later with
      | 0 => ∃ text', text = Char.ofNat (value * 0x40 + (byte.toNat - 0x80)) :: text' ∧
          decodeFrom? none rest = some text'
      | later + 1 => decodeFrom?
          (some ⟨value * 0x40 + (byte.toNat - 0x80), later, 0x80, 0xBF⟩) rest = some text := by
  cases bytes with
  | nil => cases read
  | cons byte rest =>
      refine ⟨byte, rest, rfl, ?_⟩
      simp only [decodeFrom?, Option.elim, Pending.next] at read
      by_cases outside : byte.toNat < least ∨ most < byte.toNat
      · simp [if_pos outside] at read
      · rw [if_neg outside] at read
        refine ⟨by omega, by omega, ?_⟩
        cases later with
        | zero =>
            rcases Option.map_eq_some_iff.mp read with ⟨text', decoded, same⟩
            exact ⟨text', same.symm, decoded⟩
        | succ later => exact read

/-- Bytes that spell a text start with those of its first character. -/
theorem decodeFrom?_none {lead : UInt8} (read : decodeFrom? none (lead :: bytes) = some text) :
    ∃ c text' rest, text = c :: text' ∧ lead :: bytes = encodeChar c ++ rest ∧
      decodeFrom? none rest = some text' := by
  rcases start_cases lead with broken | ⟨ascii, complete⟩ | ⟨least, most, started⟩ |
    ⟨least, most, started⟩ | ⟨least, most, started⟩
  · simp [decodeFrom?, broken] at read
  · rw [decodeFrom?_start_complete complete] at read
    rcases Option.map_eq_some_iff.mp read with ⟨_, decoded, rfl⟩
    exact ⟨_, _, bytes, rfl, by rw [encodeChar_of_one ascii]; rfl, decoded⟩
  · rw [decodeFrom?_start_more started] at read
    rcases decodeFrom?_some read with ⟨last, rest, rfl, above, below, _, rfl, decoded⟩
    have written := encodeChar_of_two least most above below
    exact ⟨_, _, rest, rfl, by rw [written]; rfl, decoded⟩
  · rw [decodeFrom?_start_more started] at read
    rcases decodeFrom?_some read with ⟨second, rest, rfl, above, below, read⟩
    rcases decodeFrom?_some read with ⟨last, rest, rfl, lastAbove, lastBelow, _, rfl, decoded⟩
    have written := encodeChar_of_three least most above below lastAbove lastBelow
    exact ⟨_, _, rest, rfl, by rw [written]; rfl, decoded⟩
  · rw [decodeFrom?_start_more started] at read
    rcases decodeFrom?_some read with ⟨second, rest, rfl, above, below, read⟩
    rcases decodeFrom?_some read with ⟨third, rest, rfl, nextAbove, nextBelow, read⟩
    rcases decodeFrom?_some read with ⟨last, rest, rfl, lastAbove, lastBelow, _, rfl, decoded⟩
    have written := encodeChar_of_four least most above below nextAbove nextBelow lastAbove
      lastBelow
    exact ⟨_, _, rest, rfl, by rw [written]; rfl, decoded⟩

/-- Bytes spell a text exactly if they are the bytes of the text. -/
theorem decode?_eq_some_iff : decode? bytes = some text ↔ bytes = encode text := by
  constructor
  · intro read
    unfold decode? at read
    induction text generalizing bytes with
    | nil =>
        cases bytes with
        | nil => rfl
        | cons lead bytes =>
            rcases decodeFrom?_none read with ⟨_, _, _, impossible, _⟩
            cases impossible
    | cons c text ih =>
        cases bytes with
        | nil => cases read
        | cons lead bytes =>
            rcases decodeFrom?_none read with ⟨_, _, rest, same, split, decoded⟩
            cases same
            rw [split, encode_cons, ih decoded]
  · rintro rfl
    exact decode?_encode text

end Readings

end CommandUrl.Utf8

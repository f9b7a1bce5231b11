import CommandUrl.Proofs.Text.Percent

/-!
# Strict decoding in two passes

A value can be decoded in two passes over its bytes. The first looks for percent
signs from an index on and moves the index behind each escape; the second decodes
leniently and copies a sign that starts no escape. Neither knows of characters, and
each finds the escapes for itself. They agree with each other, and with one reading
of the characters from left to right, because no byte of a character outside ASCII
is a percent sign or a hexadecimal digit: from the start of a character both come to
the start of the next, or behind an escape.
-/

namespace CommandUrl.Percent

/-- The text is made of escapes and of characters other than the percent sign, which stand for the
bytes: an escape for the byte that its digits spell, a character for its UTF-8. -/
inductive Denotes : List Char → List UInt8 → Prop where
  | nil : Denotes [] []
  | escaped {high low : Char} {upper lower : Nat} {text : List Char} {spelled : List UInt8}
      (first : hexValue? high = some upper) (second : hexValue? low = some lower)
      (rest : Denotes text spelled) :
      Denotes ('%' :: high :: low :: text) (UInt8.ofNat (16 * upper + lower) :: spelled)
  | raw {c : Char} {text : List Char} {spelled : List UInt8} (plain : c ≠ '%')
      (rest : Denotes text spelled) : Denotes (c :: text) (String.utf8EncodeChar c ++ spelled)

/-- The value of a byte that is a hexadecimal digit. -/
def hexByte? (byte : UInt8) : Option Nat :=
  hexValue? (Char.ofNat byte.toNat)

/-- The bytes between two indices, unless these are out of range. -/
def slice? (bytes : List UInt8) (first last : Nat) : Option (List UInt8) :=
  if first ≤ last ∧ last ≤ bytes.length then
    some ((bytes.drop first).take (last - first))
  else
    none

/-- What a turn of the first pass comes to. -/
inductive Turn where
  | ended (accepted : Bool)
  | goesOn (index : Nat)
  deriving Repr, DecidableEq

/-- A turn of the first pass from an index. It looks for the next percent sign, and goes on behind
the two digits after it; there is no turn from an index that is out of range. -/
def turn? (bytes : List UInt8) (index : Nat) : Option Turn :=
  (slice? bytes index bytes.length).map fun rest =>
    match rest.findIdx? (· = 0x25) with
    | none => .ended true
    | some offset =>
      let start := index + offset
      match slice? bytes (start + 1) (start + 3) with
      | none => .ended false
      | some pair => if pair.all (hexByte? · |>.isSome) then .goesOn (start + 3) else .ended false

/-- The first pass comes to an index. -/
inductive Reaches (bytes : List UInt8) : Nat → Prop where
  | start : Reaches bytes 0
  | turn {index next : Nat} (reached : Reaches bytes index)
      (turned : turn? bytes index = some (.goesOn next)) : Reaches bytes next

section Turns

variable {bytes : List UInt8} {index next : Nat}

theorem turn?_isSome (inside : index ≤ bytes.length) : ∃ turned, turn? bytes index = some turned := by
  unfold turn? slice?
  rw [if_pos ⟨inside, Nat.le_refl _⟩]
  exact ⟨_, rfl⟩

/-- A turn that goes on goes forward, and stays in range. -/
theorem turn?_goesOn (turned : turn? bytes index = some (.goesOn next)) :
    index < next ∧ next ≤ bytes.length := by
  rcases Option.map_eq_some_iff.mp turned with ⟨rest, _, turned⟩
  split at turned
  · cases turned
  · next offset _ =>
      dsimp only at turned
      split at turned
      · cases turned
      · next pair sliced =>
          split at turned
          · cases turned
            unfold slice? at sliced
            split at sliced
            · next inside => omega
            · cases sliced
          · cases turned

theorem Reaches.le_length (reached : Reaches bytes index) : index ≤ bytes.length := by
  cases reached with
  | start => exact Nat.zero_le _
  | turn _ turned => exact (turn?_goesOn turned).2

end Turns

/-- The verdict of the first pass from an index on, where no index is out of range. -/
def scan? (bytes : List UInt8) (index : Nat) : Option Bool :=
  match _ : turn? bytes index with
  | none => none
  | some (.ended accepted) => some accepted
  | some (.goesOn next) => scan? bytes next
termination_by bytes.length - index
decreasing_by
  have bounds := turn?_goesOn ‹turn? bytes index = some (.goesOn next)›
  omega

/-- The second pass: escapes become their byte, and everything else is copied. -/
def lenient : List UInt8 → List UInt8
  | byte :: high :: low :: rest =>
    if byte = 0x25 then
      match hexByte? high, hexByte? low with
      | some upper, some lower => UInt8.ofNat (16 * upper + lower) :: lenient rest
      | _, _ => byte :: lenient (high :: low :: rest)
    else
      byte :: lenient (high :: low :: rest)
  | rest => rest

/-- What the two passes make of the bytes, where no index is out of range. -/
def twoPasses? (bytes : List UInt8) : Option (Option (List Char)) :=
  (scan? bytes 0).map fun accepted => if accepted then Utf8.decode? (lenient bytes) else none

section Escapes

/-- The byte of an escape whose digits the text starts with, and what comes after them. -/
def digits? : List Char → Option (UInt8 × List Char)
  | high :: low :: rest =>
    match hexValue? high, hexValue? low with
    | some upper, some lower => some (UInt8.ofNat (16 * upper + lower), rest)
    | _, _ => none
  | _ => none

/-- The byte of an escape whose digits the bytes start with, and what comes after them. -/
def byteDigits? : List UInt8 → Option (UInt8 × List UInt8)
  | high :: low :: rest =>
    match hexByte? high, hexByte? low with
    | some upper, some lower => some (UInt8.ofNat (16 * upper + lower), rest)
    | _, _ => none
  | _ => none

variable {c : Char} {text rest : List Char} {byte : UInt8}

theorem toNat_of_hexValue? {value : Nat} (digit : hexValue? c = some value) : c.toNat < 0x80 := by
  have bounds := toNat_of_isEscapeChar (isEscapeChar_of_hexValue? digit)
  omega

theorem hexByte?_ofNat (ascii : c.toNat < 0x80) :
    hexByte? (UInt8.ofNat c.toNat) = hexValue? c := by
  rw [hexByte?, Utf8.toNat_ofNat (by omega), Char.ofNat_toNat]

theorem hexByte?_of_high (high : 0x80 ≤ byte.toNat) : hexByte? byte = none := by
  have bounded := byte.toNat_lt
  have spelled : (Char.ofNat byte.toNat).toNat = byte.toNat := Utf8.toNat_of_code (by omega)
  rcases read : hexByte? byte with _ | value
  · rfl
  · have low := toNat_of_hexValue? read
    omega

/-- The first byte of a character is a digit if the character is, and then it is the only one. -/
theorem encodeChar_digit (c : Char) :
    ∃ lead more, Utf8.encodeChar c = lead :: more ∧ hexByte? lead = hexValue? c ∧
      ((hexValue? c).isSome → more = []) := by
  by_cases ascii : c.toNat < 0x80
  · exact ⟨_, [], Utf8.encodeChar_of_ascii ascii, hexByte?_ofNat ascii, fun _ => rfl⟩
  · have high : 0x80 ≤ c.toNat := by omega
    have noDigit : hexValue? c = none := by
      rcases read : hexValue? c with _ | value
      · rfl
      · exact absurd (toNat_of_hexValue? read) ascii
    rcases written : Utf8.encodeChar c with _ | ⟨lead, more⟩
    · rw [Utf8.encodeChar_eq] at written
      exact absurd written String.utf8EncodeChar_ne_nil
    · have above : 0x80 ≤ lead.toNat := by
        apply Utf8.toNat_of_mem_encodeChar high
        rw [written]
        exact List.mem_cons_self
      exact ⟨lead, more, rfl, by rw [hexByte?_of_high above, noDigit], by simp [noDigit]⟩

theorem sign_not_mem_encodeChar (plain : c ≠ '%') : 0x25 ∉ Utf8.encodeChar c := by
  intro mem
  by_cases ascii : c.toNat < 0x80
  · rw [Utf8.encodeChar_of_ascii ascii, List.mem_singleton] at mem
    have spelled : (UInt8.ofNat c.toNat).toNat = c.toNat := Utf8.toNat_ofNat (by omega)
    rw [← mem] at spelled
    exact plain (Char.toNat_inj.mp spelled.symm)
  · have high := Utf8.toNat_of_mem_encodeChar (Nat.le_of_not_lt ascii) mem
    revert high
    decide

theorem byteDigits?_of_none {rest : List UInt8} (noDigit : hexByte? byte = none) :
    byteDigits? (byte :: rest) = none := by
  cases rest with
  | nil => rfl
  | cons low rest => simp only [byteDigits?, noDigit]

theorem digits?_of_none (noDigit : hexValue? c = none) : digits? (c :: text) = none := by
  cases text with
  | nil => rfl
  | cons low text => simp only [digits?, noDigit]

/-- Whether it is looked for among characters or among bytes, an escape is found in the same place
and is the same. -/
theorem byteDigits?_encode (text : List Char) :
    byteDigits? (Utf8.encode text) =
      (digits? text).map fun (byte, rest) => (byte, Utf8.encode rest) := by
  cases text with
  | nil => rfl
  | cons high text =>
      rcases encodeChar_digit high with ⟨lead, more, written, read, single⟩
      rw [Utf8.encode_cons, written, List.cons_append]
      cases upper : hexValue? high with
      | none =>
          rw [upper] at read
          rw [byteDigits?_of_none read, digits?_of_none upper, Option.map_none]
      | some value =>
          rw [single (by rw [upper]; rfl), List.nil_append]
          cases text with
          | nil => rfl
          | cons low rest =>
              rcases encodeChar_digit low with ⟨lead', more', written', read', single'⟩
              rw [Utf8.encode_cons, written', List.cons_append]
              simp only [byteDigits?, digits?, read, read', upper]
              cases lower : hexValue? low with
              | none => rfl
              | some _ =>
                  rw [single' (by rw [lower]; rfl)]
                  rfl

end Escapes

section Signs

variable {c : Char} {text rest : List Char} {byte : UInt8}

theorem encode_sign (text : List Char) : Utf8.encode ('%' :: text) = 0x25 :: Utf8.encode text := rfl

theorem wellFormed_of_ne (plain : c ≠ '%') (text : List Char) :
    wellFormed (c :: text) = wellFormed text :=
  (Spells.of_ne plain text).2

theorem bytes_of_ne (plain : c ≠ '%') (text : List Char) :
    bytes (c :: text) = Utf8.encodeChar c ++ bytes text :=
  (Spells.of_ne plain text).1

theorem digits?_eq_some (read : digits? text = some (byte, rest)) :
    ∃ high low upper lower, text = high :: low :: rest ∧ hexValue? high = some upper ∧
      hexValue? low = some lower ∧ byte = UInt8.ofNat (16 * upper + lower) := by
  rcases text with _ | ⟨high, _ | ⟨low, rest⟩⟩
  · cases read
  · cases read
  · cases first : hexValue? high with
    | none => simp [digits?, first] at read
    | some upper =>
        cases second : hexValue? low with
        | none => simp [digits?, first, second] at read
        | some lower =>
            simp only [digits?, first, second, Option.some.injEq, Prod.mk.injEq] at read
            rcases read with ⟨rfl, rfl⟩
            exact ⟨high, low, upper, lower, rfl, first, second, rfl⟩

theorem wellFormed_sign (text : List Char) :
    wellFormed ('%' :: text) = (digits? text).any (wellFormed ·.2) := by
  rcases text with _ | ⟨high, _ | ⟨low, rest⟩⟩
  · rfl
  · rfl
  · cases first : hexValue? high with
    | none => simp [wellFormed, digits?, first]
    | some upper =>
        cases second : hexValue? low with
        | none => simp [wellFormed, digits?, first, second]
        | some lower => simp [wellFormed, digits?, first, second]

theorem bytes_sign (text : List Char) :
    bytes ('%' :: text) =
      match digits? text with
      | some (byte, rest) => byte :: bytes rest
      | none => 0x25 :: bytes text := by
  rcases text with _ | ⟨high, _ | ⟨low, rest⟩⟩
  · rfl
  · rfl
  · cases first : hexValue? high with
    | none =>
        simp only [bytes, digits?, first]
        rfl
    | some upper =>
        cases second : hexValue? low with
        | none =>
            simp only [bytes, digits?, first, second]
            rfl
        | some lower => simp only [bytes, digits?, first, second]

theorem lenient_sign (after : List UInt8) :
    lenient (0x25 :: after) =
      match byteDigits? after with
      | some (byte, rest) => byte :: lenient rest
      | none => 0x25 :: lenient after := by
  rcases after with _ | ⟨high, _ | ⟨low, rest⟩⟩
  · rfl
  · rfl
  · cases first : hexByte? high with
    | none => simp only [lenient, byteDigits?, first, if_true]
    | some upper =>
        cases second : hexByte? low with
        | none => simp only [lenient, byteDigits?, first, second, if_true]
        | some lower => simp only [lenient, byteDigits?, first, second, if_true]

theorem lenient_append {copied : List UInt8} (plain : 0x25 ∉ copied) (after : List UInt8) :
    lenient (copied ++ after) = copied ++ lenient after := by
  induction copied with
  | nil => rfl
  | cons byte copied ih =>
      rw [List.mem_cons, not_or] at plain
      have other : byte ≠ 0x25 := fun same => plain.1 same.symm
      rw [List.cons_append, List.cons_append, ← ih plain.2]
      rcases copied ++ after with _ | ⟨high, _ | ⟨low, rest⟩⟩
      · rfl
      · rfl
      · simp only [lenient, if_neg other]

/-- Reading a text from left to right, past characters, escapes and stray percent signs. -/
theorem induction_on_escapes {motive : List Char → Prop} (nil : motive [])
    (raw : ∀ c text, c ≠ '%' → motive text → motive (c :: text))
    (escaped : ∀ text byte rest, digits? text = some (byte, rest) → motive rest →
      motive ('%' :: text))
    (stray : ∀ text, digits? text = none → motive text → motive ('%' :: text))
    (text : List Char) : motive text := by
  induction length : text.length using Nat.strongRecOn generalizing text with
  | ind _ ih =>
      subst length
      cases text with
      | nil => exact nil
      | cons c text =>
          have shorter : motive text := ih _ (Nat.lt_succ_self _) text rfl
          by_cases sign : c = '%'
          · subst sign
            cases read : digits? text with
            | none => exact stray text read shorter
            | some found =>
                rcases found with ⟨byte, rest⟩
                apply escaped text byte rest read
                apply ih rest.length _ rest rfl
                rcases digits?_eq_some read with ⟨high, low, _, _, rfl, _⟩
                simp only [List.length_cons]
                omega
          · exact raw c text sign shorter

end Signs

section Grammar

variable {text value : List Char} {spelled : List UInt8}

theorem Denotes.spells (denotes : Denotes text spelled) : Spells spelled text := by
  induction denotes with
  | nil => exact Spells.nil
  | escaped first second _ ih => exact Spells.append (Spells.of_escapes (.cons first second .nil)) ih
  | raw plain _ ih =>
      rw [← Utf8.encodeChar_eq]
      exact Spells.append (Spells.of_ne plain) ih

theorem denotes_bytes (formed : wellFormed text) : Denotes text (bytes text) := by
  induction text using induction_on_escapes with
  | nil => exact .nil
  | raw c text plain ih =>
      rw [wellFormed_of_ne plain] at formed
      rw [bytes_of_ne plain, Utf8.encodeChar_eq]
      exact .raw plain (ih formed)
  | escaped text byte rest read ih =>
      rw [wellFormed_sign, read] at formed
      rw [bytes_sign, read]
      rcases digits?_eq_some read with ⟨high, low, upper, lower, rfl, first, second, rfl⟩
      exact .escaped first second (ih formed)
  | stray text read ih =>
      rw [wellFormed_sign, read] at formed
      cases formed

/-- Strict decoding gives the text whose UTF-8 the written one denotes, and nothing where it denotes
nothing. -/
theorem decode?_eq_some_iff :
    decode? text = some value ↔ Denotes text (value.flatMap String.utf8EncodeChar) := by
  rw [← Utf8.encode_eq]
  constructor
  · intro decoded
    unfold decode? at decoded
    split at decoded
    · next formed =>
        rw [← Utf8.decode?_eq_some_iff.mp decoded]
        exact denotes_bytes formed
    · cases decoded
  · intro denotes
    exact denotes.spells.decode?

end Grammar

section Passes

variable {before after copied : List UInt8}

/-- The second pass does to the bytes what lenient decoding does to the characters. -/
theorem lenient_encode (text : List Char) : lenient (Utf8.encode text) = bytes text := by
  induction text using induction_on_escapes with
  | nil => rfl
  | raw c text plain ih =>
      rw [Utf8.encode_cons, lenient_append (sign_not_mem_encodeChar plain), ih, bytes_of_ne plain]
  | escaped text byte rest read ih =>
      rw [encode_sign, lenient_sign, bytes_sign, byteDigits?_encode, read]
      simp only [Option.map_some, ih]
  | stray text read ih =>
      rw [encode_sign, lenient_sign, bytes_sign, byteDigits?_encode, read]
      simp only [Option.map_none, ih]

theorem slice?_after (before after : List UInt8) :
    slice? (before ++ after) before.length (before ++ after).length = some after := by
  simp [slice?]

/-- Bytes that are no percent sign are passed over. -/
theorem turn?_append (plain : 0x25 ∉ copied) :
    turn? (before ++ (copied ++ after)) before.length =
      turn? (before ++ (copied ++ after)) (before ++ copied).length := by
  have none : copied.findIdx? (· = 0x25) = none := by
    rw [List.findIdx?_eq_none_iff]
    intro byte mem
    simp only [decide_eq_false_iff_not]
    rintro rfl
    exact plain mem
  have first := slice?_after before (copied ++ after)
  have second := slice?_after (before ++ copied) after
  rw [List.append_assoc] at second
  unfold turn?
  rw [first, second, Option.map_some, Option.map_some, List.findIdx?_append, none, Option.none_or]
  cases after.findIdx? (· = 0x25) with
  | none => rfl
  | some offset =>
      have same : before.length + (offset + copied.length) =
          before.length + copied.length + offset := by omega
      simp only [Option.map_some, List.length_append, same]

theorem slice?_pair (before after : List UInt8) (byte : UInt8) :
    slice? (before ++ byte :: after) (before.length + 1) (before.length + 3) =
      if 2 ≤ after.length then some (after.take 2) else none := by
  have start : (before ++ byte :: after).drop (before.length + 1) = after := by
    rw [List.drop_append]
    simp
  have width : before.length + 3 - (before.length + 1) = 2 := by omega
  unfold slice?
  rw [width, start]
  simp only [List.length_append, List.length_cons]
  congr 1
  rw [eq_iff_iff]
  omega

/-- At a percent sign a turn goes on behind the digits of an escape, if they are there. -/
theorem turn?_sign (before after : List UInt8) :
    turn? (before ++ 0x25 :: after) before.length =
      some (if (byteDigits? after).isSome then .goesOn (before.length + 3) else .ended false) := by
  unfold turn?
  rw [slice?_after, Option.map_some]
  simp only [List.findIdx?_cons, decide_true, if_true, Nat.add_zero, slice?_pair]
  rcases after with _ | ⟨high, _ | ⟨low, rest⟩⟩
  · rfl
  · rfl
  · cases first : hexByte? high with
    | none => simp [byteDigits?, first]
    | some upper =>
        cases second : hexByte? low with
        | none => simp [byteDigits?, first, second]
        | some lower => simp [byteDigits?, first, second]

theorem scan?_eq (bytes : List UInt8) (index : Nat) :
    scan? bytes index =
      (turn? bytes index).bind fun turned =>
        match turned with
        | .ended accepted => some accepted
        | .goesOn next => scan? bytes next := by
  rw [scan?]
  split
  · next none => rw [none, Option.bind_none]
  · next ended => rw [ended, Option.bind_some]
  · next goesOn => rw [goesOn, Option.bind_some]

/-- From the start of a character on, the first pass says whether every percent sign starts an
escape. -/
theorem scan?_encode (text : List Char) (before : List UInt8) :
    scan? (before ++ Utf8.encode text) before.length = some (wellFormed text) := by
  induction text using induction_on_escapes generalizing before with
  | nil =>
      have inside := slice?_after before []
      rw [scan?_eq, turn?, Utf8.encode_nil, inside]
      rfl
  | raw c text plain ih =>
      rw [Utf8.encode_cons, scan?_eq, turn?_append (sign_not_mem_encodeChar plain), ← scan?_eq,
        ← List.append_assoc, ih, wellFormed_of_ne plain]
  | escaped text byte rest read ih =>
      rw [encode_sign, wellFormed_sign, read, scan?_eq, turn?_sign, byteDigits?_encode, read]
      simp only [Option.map_some, Option.isSome_some, if_true, Option.bind_some, Option.any_some]
      rcases digits?_eq_some read with ⟨high, low, _, _, rfl, first, second, _⟩
      -- both digits are single bytes, so the index is at the start of what comes after them
      rw [Utf8.encode_cons, Utf8.encode_cons, Utf8.encodeChar_of_ascii (toNat_of_hexValue? first),
        Utf8.encodeChar_of_ascii (toNat_of_hexValue? second)]
      have passed := ih (before ++ [0x25, UInt8.ofNat high.toNat, UInt8.ofNat low.toNat])
      rw [List.length_append, List.append_assoc] at passed
      exact passed
  | stray text read ih =>
      rw [encode_sign, wellFormed_sign, read, scan?_eq, turn?_sign, byteDigits?_encode, read]
      rfl

/-- Strict decoding in two passes over the bytes of a text is strict decoding of its characters,
which finds the text whose UTF-8 the written one denotes, and none if there is none. Wherever the
first pass comes, it is in range, and a turn that goes on goes forward. -/
theorem decode?_two_passes (text : List Char) :
    twoPasses? (text.flatMap String.utf8EncodeChar) = some (decode? text) ∧
      (∀ value, decode? text = some value ↔
        Denotes text (value.flatMap String.utf8EncodeChar)) ∧
      ∀ index, Reaches (text.flatMap String.utf8EncodeChar) index →
        index ≤ (text.flatMap String.utf8EncodeChar).length ∧
          ∃ turned, turn? (text.flatMap String.utf8EncodeChar) index = some turned ∧
            ∀ next, turned = .goesOn next → index < next := by
  refine ⟨?_, fun value => decode?_eq_some_iff, ?_⟩
  · have verdict : scan? (Utf8.encode text) 0 = some (wellFormed text) := scan?_encode text []
    rw [← Utf8.encode_eq, twoPasses?, verdict, lenient_encode]
    rfl
  · intro index reached
    have inside := reached.le_length
    rcases turn?_isSome inside with ⟨turned, found⟩
    refine ⟨inside, turned, found, ?_⟩
    rintro next rfl
    exact (turn?_goesOn found).1

/-- A character whose bytes are escaped one by one, and an escaped percent sign that digits
follow. -/
theorem decode?_two_passes_accent :
    Reaches ("%C3%a9%25a9".toList.flatMap String.utf8EncodeChar) 6 ∧
      6 ≤ ("%C3%a9%25a9".toList.flatMap String.utf8EncodeChar).length ∧
      decode? "%C3%a9%25a9".toList = some "\u00E9%a9".toList := by
  rcases decode?_two_passes "%C3%a9%25a9".toList with ⟨_, denoted, inside⟩
  have first : Reaches ("%C3%a9%25a9".toList.flatMap String.utf8EncodeChar) 3 :=
    .turn .start (by decide)
  have reached : Reaches ("%C3%a9%25a9".toList.flatMap String.utf8EncodeChar) 6 :=
    .turn first (by decide)
  have plain : Denotes ['a', '9'] (String.utf8EncodeChar 'a' ++ (String.utf8EncodeChar '9' ++ [])) :=
    .raw (by decide) (.raw (by decide) .nil)
  have denotes : Denotes "%C3%a9%25a9".toList
      (UInt8.ofNat (16 * 12 + 3) :: UInt8.ofNat (16 * 10 + 9) :: UInt8.ofNat (16 * 2 + 5) :: _) :=
    .escaped rfl rfl (.escaped rfl rfl (.escaped rfl rfl plain))
  exact ⟨reached, (inside 6 reached).1, (denoted _).mpr denotes⟩

end Passes

end CommandUrl.Percent

/-!
# UTF-8

Text goes into a command address as escaped bytes and comes out of a settings
file as raw ones, so both directions of UTF-8 are needed. `Utf8.encode` writes
a character in one to four bytes. Reading goes byte by byte: a lead byte says
how many bytes follow and in which interval the first of them lies, and those
intervals are what rules out overlong forms, surrogates and values above the
last code point. `Utf8.decode?` refuses bytes that are not well formed,
`Utf8.decodeLossy` puts one replacement character for every maximal run of
bytes that starts a character and cannot finish it.
-/

namespace CommandUrl.Utf8

/-- The bytes of one character, one to four of them by the size of its code point. -/
def encodeChar (c : Char) : List UInt8 :=
  let code := c.toNat
  if code < 0x80 then
    [UInt8.ofNat code]
  else if code < 0x800 then
    [UInt8.ofNat (0xC0 + code / 0x40), UInt8.ofNat (0x80 + code % 0x40)]
  else if code < 0x10000 then
    [UInt8.ofNat (0xE0 + code / 0x1000), UInt8.ofNat (0x80 + code / 0x40 % 0x40),
      UInt8.ofNat (0x80 + code % 0x40)]
  else
    [UInt8.ofNat (0xF0 + code / 0x40000), UInt8.ofNat (0x80 + code / 0x1000 % 0x40),
      UInt8.ofNat (0x80 + code / 0x40 % 0x40), UInt8.ofNat (0x80 + code % 0x40)]

/-- The bytes of a text, character by character. -/
def encode (text : List Char) : List UInt8 :=
  text.flatMap encodeChar

@[simp]
theorem encode_nil : encode [] = [] := rfl

@[simp]
theorem encode_cons (c : Char) (text : List Char) :
    encode (c :: text) = encodeChar c ++ encode text := by
  simp [encode]

@[simp]
theorem encode_append (left right : List Char) :
    encode (left ++ right) = encode left ++ encode right := by
  simp [encode]

/-- A character some of whose bytes are still to come. -/
structure Pending where
  /-- The number that the bytes so far spell. -/
  value : Nat
  /-- How many bytes follow the next one. -/
  later : Nat
  /-- The least value the next byte may have. -/
  least : Nat
  /-- The greatest value the next byte may have. -/
  most : Nat
  deriving Repr, DecidableEq

/-- What one byte does to the character being read. -/
inductive Reading where
  | complete (character : Char)
  | more (pending : Pending)
  | broken
  deriving Repr, DecidableEq

/-- Reads the first byte of a character. The intervals after the lead bytes `E0`, `ED`, `F0` and
`F4` are narrower than the others: they leave out overlong forms, surrogates and numbers above
the last code point. -/
def start (byte : UInt8) : Reading :=
  let code := byte.toNat
  if code < 0x80 then
    .complete (Char.ofNat code)
  else if code < 0xC2 then
    .broken
  else if code < 0xE0 then
    .more ⟨code - 0xC0, 0, 0x80, 0xBF⟩
  else if code < 0xF0 then
    .more ⟨code - 0xE0, 1, if code = 0xE0 then 0xA0 else 0x80, if code = 0xED then 0x9F else 0xBF⟩
  else if code < 0xF5 then
    .more ⟨code - 0xF0, 2, if code = 0xF0 then 0x90 else 0x80, if code = 0xF4 then 0x8F else 0xBF⟩
  else
    .broken

/-- Reads a byte after the first. -/
def Pending.next (pending : Pending) (byte : UInt8) : Reading :=
  let code := byte.toNat
  if code < pending.least ∨ pending.most < code then
    .broken
  else
    let value := pending.value * 0x40 + (code - 0x80)
    match pending.later with
    | 0 => .complete (Char.ofNat value)
    | later + 1 => .more ⟨value, later, 0x80, 0xBF⟩

/-- Reads bytes on from the middle of a character, or from between two. -/
def decodeFrom? : Option Pending → List UInt8 → Option (List Char)
  | none, [] => some []
  | some _, [] => none
  | pending, byte :: bytes =>
    match pending.elim (start byte) (·.next byte) with
    | .complete character => (decodeFrom? none bytes).map (character :: ·)
    | .more pending => decodeFrom? (some pending) bytes
    | .broken => none

/-- The text that the bytes spell, if they are well formed from end to end. -/
def decode? (bytes : List UInt8) : Option (List Char) :=
  decodeFrom? none bytes

/-- The replacement character, which stands for bytes that spell nothing. -/
def replacement : Char := '\uFFFD'

/-- Reads bytes on, replacing what cannot be finished. A byte that breaks a character off is read
again as the first of the next. -/
def decodeLossyFrom : Option Pending → List UInt8 → List Char
  | none, [] => []
  | some _, [] => [replacement]
  | none, byte :: bytes =>
    match start byte with
    | .complete character => character :: decodeLossyFrom none bytes
    | .more pending => decodeLossyFrom (some pending) bytes
    | .broken => replacement :: decodeLossyFrom none bytes
  | some pending, byte :: bytes =>
    match pending.next byte with
    | .complete character => character :: decodeLossyFrom none bytes
    | .more pending => decodeLossyFrom (some pending) bytes
    | .broken =>
      replacement ::
        match start byte with
        | .complete character => character :: decodeLossyFrom none bytes
        | .more pending => decodeLossyFrom (some pending) bytes
        | .broken => replacement :: decodeLossyFrom none bytes

/-- The text of the bytes, with a replacement character wherever they are not well formed. -/
def decodeLossy (bytes : List UInt8) : List Char :=
  decodeLossyFrom none bytes

end CommandUrl.Utf8

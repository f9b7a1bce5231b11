import CommandUrl.Text.Utf8

/-!
# Percent escapes

An escape is a percent sign and two hexadecimal digits, and stands for a byte.
`Percent.encode` escapes the UTF-8 bytes of every character outside ASCII and
of the ASCII characters of a given set. Decoding comes in two kinds: a host is
decoded leniently, so that a percent sign which starts no escape stands for
itself, while the value of a query parameter is decoded strictly, so that such
a sign, or bytes that are not UTF-8, spoil the whole value.
-/

namespace CommandUrl.Percent

/-- The value of a hexadecimal digit, in either case. -/
def hexValue? (c : Char) : Option Nat :=
  if '0' ≤ c ∧ c ≤ '9' then some (c.toNat - '0'.toNat)
  else if 'a' ≤ c ∧ c ≤ 'f' then some (c.toNat - 'a'.toNat + 10)
  else if 'A' ≤ c ∧ c ≤ 'F' then some (c.toNat - 'A'.toNat + 10)
  else none

/-- The hexadecimal digit of a value below sixteen, in upper case. -/
def hexDigit (value : Nat) : Char :=
  if value < 10 then Char.ofNat ('0'.toNat + value) else Char.ofNat ('A'.toNat + value - 10)

/-- The escape of one byte. -/
def escape (byte : UInt8) : List Char :=
  ['%', hexDigit (byte.toNat / 16), hexDigit (byte.toNat % 16)]

/-- The control characters of ASCII. -/
def isControl (c : Char) : Bool :=
  c.toNat < 0x20 || c.toNat = 0x7F

/-- The written form of one character where the characters of `set` have to be escaped. -/
def encodeChar (set : Char → Bool) (c : Char) : List Char :=
  if 0x80 ≤ c.toNat || set c then (Utf8.encodeChar c).flatMap escape else [c]

/-- Escapes every character outside ASCII and every one of `set`. -/
def encode (set : Char → Bool) (text : List Char) : List Char :=
  text.flatMap (encodeChar set)

@[simp]
theorem encode_nil (set : Char → Bool) : encode set [] = [] := rfl

@[simp]
theorem encode_cons (set : Char → Bool) (c : Char) (text : List Char) :
    encode set (c :: text) = encodeChar set c ++ encode set text := by
  simp [encode]

@[simp]
theorem encode_append (set : Char → Bool) (left right : List Char) :
    encode set (left ++ right) = encode set left ++ encode set right := by
  simp [encode]

/-- Every percent sign starts an escape. -/
def wellFormed : List Char → Bool
  | [] => true
  | '%' :: high :: low :: rest =>
    (hexValue? high).isSome && (hexValue? low).isSome && wellFormed rest
  | c :: rest => c != '%' && wellFormed rest

/-- The bytes a text stands for: an escape for its byte, anything else, a percent sign that starts
no escape among it, for its UTF-8 bytes. -/
def bytes : List Char → List UInt8
  | [] => []
  | '%' :: high :: low :: rest =>
    match hexValue? high, hexValue? low with
    | some h, some l => UInt8.ofNat (16 * h + l) :: bytes rest
    | _, _ => Utf8.encodeChar '%' ++ bytes (high :: low :: rest)
  | c :: rest => Utf8.encodeChar c ++ bytes rest

/-- Strict decoding: every percent sign has to start an escape, and the bytes have to be UTF-8. -/
def decode? (text : List Char) : Option (List Char) :=
  if wellFormed text then Utf8.decode? (bytes text) else none

end CommandUrl.Percent

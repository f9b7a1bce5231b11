import CommandUrl.Text.Percent

/-!
# Numbers in digits

Reading a run of digits in some base, as ports, numeric hosts and settings
files have them, and writing a number in hexadecimal.
-/

namespace CommandUrl.Text

/-- A decimal digit of ASCII. -/
def isDigit (c : Char) : Bool :=
  '0' ≤ c && c ≤ '9'

/-- A hexadecimal digit of ASCII, in either case. -/
def isHexDigit (c : Char) : Bool :=
  (Percent.hexValue? c).isSome

/-- A letter of ASCII. -/
def isAsciiLetter (c : Char) : Bool :=
  ('a' ≤ c && c ≤ 'z') || ('A' ≤ c && c ≤ 'Z')

/-- The number that the digits spell, the most significant first; a character that is no digit
counts as zero. -/
def numberOf (base : Nat) (digits : List Char) : Nat :=
  digits.foldl (fun number digit => number * base + (Percent.hexValue? digit).getD 0) 0

/-- A number in decimal digits. -/
def decimal (number : Nat) : List Char :=
  Nat.toDigits 10 number

/-- A number in lower-case hexadecimal digits, without leading zeros. -/
def hexadecimal (number : Nat) : List Char :=
  Nat.toDigits 16 number

end CommandUrl.Text

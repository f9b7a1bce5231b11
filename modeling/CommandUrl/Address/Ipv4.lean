import CommandUrl.Text.Digits
import CommandUrl.Text.Split

/-!
# Numeric hosts of version four

A domain whose last label is a number is not a name but an address of four
bytes. Its labels may be written in decimal, octal or hexadecimal, there may be
fewer than four of them, in which case the last one fills all the bytes that are
left, and a single dot at the end does not count.
-/

namespace CommandUrl.Address.Ipv4

/-- The value of one label: hexadecimal after `0x`, octal after `0`, decimal otherwise. -/
def number? (label : List Char) : Option Nat :=
  let read (base : Nat) (isDigit : Char → Bool) (digits : List Char) : Option Nat :=
    if digits.all isDigit then some (Text.numberOf base digits) else none
  match label with
  | [] => none
  | '0' :: 'x' :: digits => read 16 Text.isHexDigit digits
  | '0' :: 'X' :: digits => read 16 Text.isHexDigit digits
  | '0' :: digit :: digits => read 8 (fun c => '0' ≤ c && c ≤ '7') (digit :: digits)
  | digits => read 10 Text.isDigit digits

/-- The labels of a domain without the empty one that a dot at the end leaves behind. -/
def labels (domain : List Char) : List (List Char) :=
  let pieces := Text.split '.' domain
  if pieces.getLast? = some [] then pieces.dropLast else pieces

/-- The domain is meant as a number, well formed or not. -/
def endsInNumber (domain : List Char) : Bool :=
  match (labels domain).getLast? with
  | none => false
  | some last => (!last.isEmpty && last.all Text.isDigit) || (number? last).isSome

/-- The address that the labels make: all but the last are one byte each, the last fills the
rest. -/
def ofNumbers? (numbers : List Nat) : Option Nat :=
  match numbers.getLast? with
  | none => none
  | some last =>
    let leading := numbers.dropLast
    if leading.length ≤ 3 ∧ leading.all (· < 0x100) ∧ last < Nat.pow 0x100 (4 - leading.length) then
      some (leading.foldr (fun byte (total, place) => (total + byte * place, place * 0x100))
        (last, Nat.pow 0x100 (4 - leading.length))).1
    else
      none

/-- Reads a domain as an address. -/
def parse? (domain : List Char) : Option Nat := do
  let numbers ← (labels domain).mapM number?
  ofNumbers? numbers

/-- The four bytes in decimal, with dots between them. -/
def render (address : Nat) : List Char :=
  Text.join '.' ([address / 0x1000000 % 0x100, address / 0x10000 % 0x100, address / 0x100 % 0x100,
    address % 0x100].map Text.decimal)

end CommandUrl.Address.Ipv4

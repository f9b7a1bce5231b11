import CommandUrl.Text.Digits

/-!
# Numbers in JSON

A number is kept as it is written, since only its class matters to the settings
and only whole numbers have a meaning to the other records: a window is
identified by an unsigned number of 64 bits.
-/

namespace CommandUrl.Json

/-- The exponent part of a number. -/
structure Exponent where
  negative : Bool
  digits : List Char
  deriving Repr, DecidableEq

/-- A number as written: its digits before the point, after the point and in the exponent. -/
structure Number where
  negative : Bool
  whole : List Char
  fraction : Option (List Char)
  exponent : Option Exponent
  deriving Repr, DecidableEq

namespace Number

/-- A whole number. -/
def ofNat (value : Nat) : Number :=
  ⟨false, Text.decimal value, none, none⟩

/-- At least one digit, and nothing else. -/
def isDigits (text : List Char) : Bool :=
  !text.isEmpty && text.all Text.isDigit

/-- Reads the exponent part from after its letter. -/
def exponent? (text : List Char) : Option Exponent :=
  match text with
  | '-' :: digits => if isDigits digits then some ⟨true, digits⟩ else none
  | '+' :: digits => if isDigits digits then some ⟨false, digits⟩ else none
  | digits => if isDigits digits then some ⟨false, digits⟩ else none

/-- Reads what follows the digits before the point. -/
def parts? (text : List Char) : Option (Option (List Char) × Option Exponent) :=
  let exponentPart? (text : List Char) : Option (Option Exponent) :=
    match text with
    | [] => some none
    | letter :: rest => if letter = 'e' || letter = 'E' then (exponent? rest).map some else none
  match text with
  | '.' :: rest =>
    let fraction := rest.takeWhile Text.isDigit
    if fraction.isEmpty then
      none
    else
      (exponentPart? (rest.dropWhile Text.isDigit)).map fun exponent => (some fraction, exponent)
  | rest => (exponentPart? rest).map fun exponent => (none, exponent)

/-- Reads a number that takes up the whole of a text. A leading zero stands alone. -/
def parse? (text : List Char) : Option Number := do
  let (negative, text) :=
    match text with
    | '-' :: rest => (true, rest)
    | rest => (false, rest)
  let whole := text.takeWhile Text.isDigit
  guard (!whole.isEmpty && (whole.head? != some '0' || whole.length = 1))
  let (fraction, exponent) ← parts? (text.dropWhile Text.isDigit)
  some ⟨negative, whole, fraction, exponent⟩

/-- Writes a number. -/
def render (number : Number) : List Char :=
  (if number.negative then ['-'] else []) ++ number.whole ++
    (match number.fraction with
      | some digits => '.' :: digits
      | none => []) ++
    match number.exponent with
    | some exponent => 'e' :: (if exponent.negative then ['-'] else []) ++ exponent.digits
    | none => []

/-- The greatest whole number of 64 bits and the sign that can be kept exactly: without a sign all
64 bits count, with one the last of them is the sign. -/
def bound (negative : Bool) : Nat :=
  if negative then Nat.pow 2 63 else Nat.pow 2 64 - 1

/-- The value of a number that is written as a whole number and fits. A zero with a minus sign is
not a whole number. -/
def integer? (number : Number) : Option Int :=
  let value := Text.numberOf 10 number.whole
  if number.fraction.isNone && number.exponent.isNone && value ≤ bound number.negative &&
      !(number.negative && value = 0) then
    some (if number.negative then -(value : Int) else value)
  else
    none

/-- The value of a number that is written as a whole number without a sign, and fits 64 bits. -/
def unsigned? (number : Number) : Option Nat :=
  if number.negative then none else number.integer?.map Int.toNat

end Number

end CommandUrl.Json

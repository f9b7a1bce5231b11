import CommandUrl.Json.Number

/-!
# Floating point numbers

A number that is not a whole number of 64 bits stands for a binary number of
53 significant bits. This module reads a written number as one and writes the
shortest decimal that reads back as it.

Reading rounds twice: the first digits that fit 64 bits are rounded to a binary
number, which is then scaled by a rounded power of ten and rounded again. A
number may therefore come out as a neighbour of the nearest binary number.
Writing decides in exact arithmetic: of the decimals of one digit, then of two
and so on, it takes the first that lies in the interval that rounds to the
number, and of several the nearest.
-/

namespace CommandUrl.Json

/-- The binary number of `mantissa` times the `exponent`th power of two. -/
structure Binary where
  mantissa : Nat
  exponent : Int
  deriving Repr, DecidableEq

namespace Binary

/-- The least exponent. -/
def least : Int := -1074

/-- The greatest exponent of a finite number. -/
def greatest : Int := 971

/-- A power of a base as a ratio of whole numbers. -/
def power (base : Nat) (exponent : Int) : Nat × Nat :=
  if 0 ≤ exponent then (Nat.pow base exponent.toNat, 1) else (1, Nat.pow base (-exponent).toNat)

/-- The whole number nearest to a ratio, the even one of two. -/
def nearest (numerator denominator : Nat) : Nat :=
  let whole := numerator / denominator
  let twice := 2 * (numerator % denominator)
  if denominator < twice || (twice = denominator && whole % 2 = 1) then whole + 1 else whole

/-- The binary number nearest to a ratio, if it is finite. -/
def ofRatio? (numerator denominator : Nat) : Option Binary :=
  if numerator = 0 then
    some ⟨0, least⟩
  else
    let guess : Int := (numerator.log2 : Int) - denominator.log2 - 52
    let scaled (exponent : Int) : Nat × Nat :=
      let (up, down) := power 2 (-exponent)
      (numerator * up, denominator * down)
    let (top, bottom) := scaled guess
    let exponent := max least (if top < bottom * Nat.pow 2 52 then guess - 1 else guess)
    let (top, bottom) := scaled exponent
    let mantissa := nearest top bottom
    let result : Binary :=
      if mantissa = Nat.pow 2 53 then ⟨Nat.pow 2 52, exponent + 1⟩ else ⟨mantissa, exponent⟩
    if result.exponent ≤ greatest then some result else none

/-- The exact value as a ratio. -/
def ratio (number : Binary) : Nat × Nat :=
  let (up, down) := power 2 number.exponent
  (number.mantissa * up, down)

/-- The product with a power of ten that is itself rounded first. Below the range of powers that
are binary numbers, the largest one is divided out first. -/
def scale? (number : Binary) (exponent : Int) : Option Binary :=
  let divide (number : Binary) (digits : Nat) : Option Binary := do
    let (numerator, denominator) := number.ratio
    let tens ← ofRatio? (Nat.pow 10 digits) 1
    let (up, down) := tens.ratio
    ofRatio? (numerator * down) (denominator * up)
  if 308 < exponent then
    if number.mantissa = 0 then some number else none
  else if 0 ≤ exponent then do
    let (numerator, denominator) := number.ratio
    let tens ← ofRatio? (Nat.pow 10 exponent.toNat) 1
    let (up, down) := tens.ratio
    ofRatio? (numerator * up) (denominator * down)
  else if -308 ≤ exponent then
    divide number (-exponent).toNat
  else do
    let smaller ← divide number 308
    if -616 ≤ exponent then
      divide smaller (-exponent - 308).toNat
    else
      let smallest ← divide smaller 308
      divide smallest (min 308 (-exponent - 616).toNat)

/-- The first digits of a number that make a value of 64 bits, and how many were left over. -/
def leading (digits : List Char) : Nat × Nat :=
  digits.foldl
    (fun (value, left) digit =>
      let next := value * 10 + Text.numberOf 10 [digit]
      if left = 0 && next < Nat.pow 2 64 then (next, 0) else (value, left + 1))
    (0, 0)

/-- The magnitude of a written number, if it is finite. Digits that do not fit 64 bits count as
zeros before the point and not at all after it. -/
def ofNumber? (number : Number) : Option Binary := do
  let fraction := number.fraction.getD []
  let (_, wholeLeft) := leading number.whole
  let (value, left) := leading (number.whole ++ fraction)
  let shift : Int :=
    match number.exponent with
    | none => 0
    | some exponent =>
      let size : Int := Text.numberOf 10 exponent.digits
      if exponent.negative then -size else size
  let used : Int := (fraction.length : Int) - ((left : Int) - wholeLeft)
  let start ← ofRatio? value 1
  start.scale? (shift + wholeLeft - used)

/-- The decimal digits of a positive number, as few as read back as it, and the place of the
decimal point after the first of them. -/
def shortest (number : Binary) : List Char × Int :=
  let (numerator, denominator) := number.ratio
  let estimate : Int :=
    if denominator ≤ numerator then (Text.decimal (numerator / denominator)).length
    else 1 - ((Text.decimal (denominator / numerator)).length : Int)
  let (up, down) := power 10 estimate
  let point := if numerator * down < denominator * up then estimate else estimate + 1
  -- A quarter of the last binary place is the unit in which the interval is measured.
  let (placeUp, placeDown) := power 2 (number.exponent - 2)
  let center := number.mantissa * 4
  let below :=
    if number.mantissa = Nat.pow 2 52 && least < number.exponent then center - 1 else center - 2
  let above := center + 2
  let reads (digits : Nat) (exponent : Int) : Bool :=
    let (tensUp, tensDown) := power 10 exponent
    let candidate := digits * tensUp * placeDown
    let low := below * placeUp * tensDown
    let high := above * placeUp * tensDown
    if number.mantissa % 2 = 0 then low ≤ candidate && candidate ≤ high
    else low < candidate && candidate < high
  let attempt (count : Nat) : Option Nat :=
    let exponent := point - count
    let (tensUp, tensDown) := power 10 exponent
    let top := numerator * tensDown
    let bottom := denominator * tensUp
    let floor := top / bottom
    let nearer := nearest top bottom
    let farther := if nearer = floor then floor + 1 else floor
    if reads nearer exponent then some nearer
    else if reads farther exponent then some farther
    else none
  match (List.range 17).findSome? fun count => (attempt (count + 1)).map fun n => (n, count + 1) with
  | some (digits, count) =>
    let written := Text.decimal digits
    ((written.reverse.dropWhile (· = '0')).reverse, point + ((written.length : Int) - count))
  | none => (Text.decimal number.mantissa, point)

/-- The text of a number: positional from a hundred-thousandth up to sixteen digits before the
point, with at least one digit after it, and otherwise with an exponent. -/
def render (negative : Bool) (number : Binary) : List Char :=
  let sign := if negative then ['-'] else []
  if number.mantissa = 0 then
    sign ++ ['0', '.', '0']
  else
    let (digits, point) := number.shortest
    let count : Int := digits.length
    sign ++
      if count ≤ point && point ≤ 16 then
        digits ++ List.replicate (point - count).toNat '0' ++ ['.', '0']
      else if 0 < point && point ≤ 16 then
        digits.take point.toNat ++ '.' :: digits.drop point.toNat
      else if -5 < point && point ≤ 0 then
        ['0', '.'] ++ List.replicate (-point).toNat '0' ++ digits
      else
        let exponent := point - 1
        digits.take 1 ++ (if 1 < digits.length then '.' :: digits.drop 1 else []) ++
          ['e', if exponent < 0 then '-' else '+'] ++ Text.decimal exponent.natAbs

end Binary

/-- What a number is called where a text or a switch was expected. -/
def Number.describe (number : Number) : String :=
  match number.integer? with
  | some value => "integer `" ++ toString value ++ "`"
  | none =>
    match Binary.ofNumber? number with
    | some magnitude =>
      "floating point `" ++ String.ofList (magnitude.render number.negative) ++ "`"
    | none => "number out of range"

end CommandUrl.Json

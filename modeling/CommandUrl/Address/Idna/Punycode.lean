import CommandUrl.Text.Digits
import CommandUrl.Text.Split

/-!
# Labels in ASCII

A label with other characters than those of ASCII is written in ASCII by giving
its ASCII characters first, and then where the others are to be inserted, in
the order of their code points. Positions and code points make one number, the
distance from the insertion before; it is written in digits of base 36 whose
thresholds adapt to the numbers that have been written.
-/

namespace CommandUrl.Address.Idna.Punycode

/-- The digit of a value below 36: letters first. -/
def digit (value : Nat) : Char :=
  if value < 26 then Char.ofNat ('a'.toNat + value) else Char.ofNat ('0'.toNat + (value - 26))

/-- The value of a digit. -/
def value? (c : Char) : Option Nat :=
  if 'a' ≤ c ∧ c ≤ 'z' then some (c.toNat - 'a'.toNat)
  else if 'A' ≤ c ∧ c ≤ 'Z' then some (c.toNat - 'A'.toNat)
  else if '0' ≤ c ∧ c ≤ '9' then some (c.toNat - '0'.toNat + 26)
  else none

/-- The threshold of the digit at a place, places counting in steps of 36. -/
def threshold (place bias : Nat) : Nat :=
  min 26 (max 1 (place - bias))

theorem threshold_bounds (place bias : Nat) : 1 ≤ threshold place bias ∧ threshold place bias ≤ 26 := by
  unfold threshold
  omega

/-- Divides a distance down until it is small, counting the steps. -/
def settle (delta steps : Nat) : Nat :=
  if 455 < delta then settle (delta / 35) (steps + 36) else steps + 36 * delta / (delta + 38)
termination_by delta
decreasing_by omega

/-- The bias after a distance, which is the first one or not, among so many characters. -/
def adapt (delta count : Nat) (first : Bool) : Nat :=
  let delta := if first then delta / 700 else delta / 2
  settle (delta + delta / count) 0

/-- The digits of a distance. -/
def digits (bias place distance : Nat) : List Char :=
  let least := threshold place bias
  if distance < least then
    [digit distance]
  else
    digit (least + (distance - least) % (36 - least)) ::
      digits bias (place + 36) ((distance - least) / (36 - least))
termination_by distance
decreasing_by
  have bounds := threshold_bounds place bias
  exact Nat.lt_of_le_of_lt (Nat.div_le_self _ _) (by omega)

/-- What is kept while a label is written. -/
structure Writing where
  /-- The distance since the last insertion. -/
  delta : Nat
  bias : Nat
  /-- How many characters have been written. -/
  handled : Nat
  /-- What has been written of the insertions. -/
  written : List Char

/-- Passes a character of the label while those with the code `code` are inserted. -/
def pass (basic code : Nat) (writing : Writing) (c : Char) : Writing :=
  if c.toNat < code then
    { writing with delta := writing.delta + 1 }
  else if c.toNat = code then
    { delta := 0
      bias := adapt writing.delta (writing.handled + 1) (writing.handled = basic)
      handled := writing.handled + 1
      written := writing.written ++ digits writing.bias 36 writing.delta }
  else
    writing

/-- Inserts the characters of the given codes, in ascending order, into the label. -/
def insertAll (label : List Char) (basic previous : Nat) (writing : Writing) : List Nat → Writing
  | [] => writing
  | code :: codes =>
    let reached := { writing with
      delta := writing.delta + (code - previous) * (writing.handled + 1) }
    let passed := label.foldl (pass basic code) reached
    insertAll label basic (code + 1) { passed with delta := passed.delta + 1 } codes

/-- Puts a code into a list in ascending order, once. -/
def putCode (code : Nat) : List Nat → List Nat
  | [] => [code]
  | other :: codes =>
    if code < other then code :: other :: codes
    else if code = other then other :: codes
    else other :: putCode code codes

/-- Writes a label in ASCII. -/
def encode (label : List Char) : List Char :=
  let basic := label.filter (·.toNat < 0x80)
  let codes := (label.filter (0x80 ≤ ·.toNat)).foldr (fun c codes => putCode c.toNat codes) []
  let writing := insertAll label basic.length 0x80
    { delta := 0, bias := 72, handled := basic.length, written := [] } codes
  basic ++ (if basic.isEmpty then [] else ['-']) ++ writing.written

/-- What is kept while a label is read. -/
structure Reading where
  /-- The codes of the label so far. -/
  codes : List Nat
  /-- The code of the last insertion. -/
  code : Nat
  /-- Where the next insertion starts to count. -/
  index : Nat
  bias : Nat
  /-- The distance read so far, the weight of the next digit and its place. -/
  distance : Nat
  weight : Nat
  place : Nat

/-- Inserts a character at the distance that has been read. -/
def Reading.insert? (reading : Reading) : Option Reading :=
  let count := reading.codes.length + 1
  let position := reading.index + reading.distance
  let code := reading.code + position / count
  let index := position % count
  if code.isValidChar then
    some {
      codes := reading.codes.take index ++ code :: reading.codes.drop index
      code
      index := index + 1
      bias := adapt reading.distance count (reading.index = 0 && reading.code = 0x80)
      distance := 0
      weight := 1
      place := 36 }
  else
    none

/-- Reads the digits of the insertions. A distance that is not finished spoils the label. -/
def Reading.run (reading : Reading) : List Char → Option (List Nat)
  | [] => if reading.place = 36 then some reading.codes else none
  | c :: rest => do
    let value ← value? c
    let least := threshold reading.place reading.bias
    let longer := { reading with
      distance := reading.distance + value * reading.weight
      weight := reading.weight * (36 - least)
      place := reading.place + 36 }
    if value < least then
      let next ← longer.insert?
      next.run rest
    else
      longer.run rest

/-- Cuts a written label into its characters of ASCII and the insertions. -/
def cut (text : List Char) : List Char × List Char :=
  match Text.cutLast? '-' text with
  | some (basic, insertions) => if basic.isEmpty then ([], text) else (basic, insertions)
  | none => ([], text)

/-- Reads a label that is written in ASCII. -/
def decode? (text : List Char) : Option (List Char) :=
  let (basic, insertions) := cut text
  let start : Reading :=
    { codes := basic.map Char.toNat
      code := 0x80
      index := 0
      bias := 72
      distance := 0
      weight := 1
      place := 36 }
  (start.run insertions).map (·.map Char.ofNat)

end CommandUrl.Address.Idna.Punycode

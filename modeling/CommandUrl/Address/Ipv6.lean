import CommandUrl.Text.Digits
import CommandUrl.Text.Split

/-!
# Numeric hosts of version six

Eight groups of sixteen bits, in hexadecimal with colons between them. A double
colon stands for the groups that are missing, at least one; it may occur once.
The last two groups may be written as four decimal bytes with dots. An address
is written back with its longest run of two or more zero groups, the first of
the longest, shortened to a double colon.
-/

namespace CommandUrl.Address.Ipv6

/-- One group: one to four hexadecimal digits. -/
def group? (piece : List Char) : Option Nat :=
  if 1 ≤ piece.length ∧ piece.length ≤ 4 ∧ piece.all Text.isHexDigit then
    some (Text.numberOf 16 piece)
  else
    none

/-- One of four decimal bytes, without leading zeros. -/
def byte? (piece : List Char) : Option Nat :=
  let value := Text.numberOf 10 piece
  if piece.all Text.isDigit ∧ value < 0x100 ∧ piece = Text.decimal value then some value else none

/-- Two groups written as four decimal bytes. -/
def dotted? (piece : List Char) : Option (List Nat) :=
  match (Text.split '.' piece).mapM byte? with
  | some [a, b, c, d] => some [a * 0x100 + b, c * 0x100 + d]
  | _ => none

/-- A run of groups of which the last two may be written as decimal bytes. -/
def groups? : List (List Char) → Option (List Nat)
  | [] => some []
  | [last] => if last.contains '.' then dotted? last else (group? last).map ([·])
  | piece :: pieces => do
    let first ← group? piece
    let rest ← groups? pieces
    some (first :: rest)

/-- Cuts a text at its first double colon. -/
def cutDoubleColon? : List Char → Option (List Char × List Char)
  | [] => none
  | ':' :: ':' :: rest => some ([], rest)
  | c :: rest => (cutDoubleColon? rest).map fun (left, right) => (c :: left, right)

/-- The pieces between single colons; no text has no pieces. -/
def pieces (text : List Char) : List (List Char) :=
  if text.isEmpty then [] else Text.split ':' text

/-- Reads the eight groups. -/
def parse? (text : List Char) : Option (List Nat) :=
  match cutDoubleColon? text with
  | none => do
    let groups ← groups? (pieces text)
    if groups.length = 8 then some groups else none
  | some (left, right) => do
    let before ← (pieces left).mapM group?
    let after ← groups? (pieces right)
    if before.length + after.length ≤ 7 then
      some (before ++ List.replicate (8 - before.length - after.length) 0 ++ after)
    else
      none

/-- How many zero groups the list starts with. -/
def zeroRun (groups : List Nat) : Nat :=
  (groups.takeWhile (· = 0)).length

/-- Where the first of the longest runs of zero groups starts, and how long it is. -/
def longestZeroRun (groups : List Nat) : Nat × Nat :=
  (List.range groups.length).foldl
    (fun best start =>
      let length := zeroRun (groups.drop start)
      if best.2 < length then (start, length) else best)
    (0, 0)

/-- Writes the eight groups, without the brackets. -/
def render (groups : List Nat) : List Char :=
  let written (part : List Nat) := Text.join ':' (part.map Text.hexadecimal)
  let (start, length) := longestZeroRun groups
  if 2 ≤ length then
    written (groups.take start) ++ [':', ':'] ++ written (groups.drop (start + length))
  else
    written groups

end CommandUrl.Address.Ipv6

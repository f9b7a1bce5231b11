import CommandUrl.Address.Idna.Direction
import CommandUrl.Address.Idna.Joining
import CommandUrl.Address.Idna.Mapping
import CommandUrl.Address.Idna.Marks
import CommandUrl.Address.Idna.Punycode
import CommandUrl.Text.Utf8

/-!
# Domains

The host of a special scheme is a domain, which may be written in any script
and is brought into one form in ASCII. Its characters are mapped and composed,
its labels are judged one by one, and a label with characters outside ASCII is
written with the mark `xn--`. A label that already has the mark is read first,
and has to be what its characters would have been written as.
-/

namespace CommandUrl.Address.Domain

open Idna

/-- A character of ASCII that no domain may have. -/
def isForbidden (c : Char) : Bool :=
  c.toNat ≤ 0x20 || c.toNat = 0x7F ||
    match c with
    | '%' | '#' | '/' | ':' | '<' | '>' | '?' | '@' | '[' | '\\' | ']' | '^' | '|' => true
    | _ => false

/-- A character of ASCII. -/
def isAscii (c : Char) : Bool :=
  c.toNat < 0x80

/-- What a label in ASCII starts with if it stands for one that is not. -/
def mark : List Char := ['x', 'n', '-', '-']

/-- The characters that a label stands for. A label with the mark stands for others than those of
ASCII, in composed form. -/
def meaning? (label : List Char) : Option (List Char) :=
  match mark.isPrefixOf? label with
  | none => some label
  | some written => do
    guard (label.all isAscii)
    let read ← Punycode.decode? written
    guard (!read.all isAscii && composed read = read && !mark.isPrefixOf read)
    some read

/-- The characters of a label may stand together. -/
def isSound (label : List Char) : Bool :=
  label.all (fun c => isValid c && !isForbidden c) && !label.head?.any isMark &&
    joinersFit [] label

/-- A label in ASCII. -/
def labelToAscii (label : List Char) : List Char :=
  if label.all isAscii then label else mark ++ Punycode.encode label

/-- The one form of a domain in ASCII. -/
def toAscii? (bytes : List UInt8) : Option (List Char) := do
  let text ← Utf8.decode? bytes
  let mapped := composed (text.flatMap mapChar)
  let labels ← (Text.split '.' mapped).mapM meaning?
  guard (labels.all isSound)
  guard (!labels.any hasRight || labels.all keepsDirection)
  some (Text.join '.' (labels.map labelToAscii))

end CommandUrl.Address.Domain

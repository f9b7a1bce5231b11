import CommandUrl.Text.Digits

/-!
# Schemes

The scheme is what stands before the first colon: a letter, then letters,
digits and the signs plus, minus and dot, read without regard to case. Six
schemes are special. Their addresses always name a host in the domain name
system, and for them a backslash separates like a slash; the file scheme has,
on top of that, an authority of its own form.
-/

namespace CommandUrl.Address

/-- How the rest of an address is read. -/
inductive SchemeKind where
  /-- Any scheme that is not special: the host is text that nothing is assumed about. -/
  | ordinary
  /-- A special scheme with a domain, credentials and a port. -/
  | network
  /-- The file scheme, whose authority is a host alone. -/
  | file
  deriving Repr, DecidableEq

/-- The kind of a scheme in lower case. -/
def SchemeKind.of (scheme : List Char) : SchemeKind :=
  match String.ofList scheme with
  | "file" => .file
  | "http" | "https" | "ws" | "wss" | "ftp" => .network
  | _ => .ordinary

/-- A character that may stand in a scheme after the first. -/
def isSchemeChar (c : Char) : Bool :=
  Text.isAsciiLetter c || Text.isDigit c || c = '+' || c = '-' || c = '.'

/-- Cuts an address into its scheme, lowered, and what follows the colon. -/
def splitScheme? (address : List Char) : Option (List Char × List Char) :=
  match address.head?, address.dropWhile isSchemeChar with
  | some first, ':' :: rest =>
    if Text.isAsciiLetter first then
      some ((address.takeWhile isSchemeChar).map Char.toLower, rest)
    else
      none
  | _, _ => none

end CommandUrl.Address

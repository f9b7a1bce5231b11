import CommandUrl.Address.Authority

/-!
# Hosts of file addresses

The authority of a file address is a host without credentials or port. It is no
host at all if it is empty, the name of the local machine, or a drive letter,
and a host is dropped again where the path that follows starts at a drive.
-/

namespace CommandUrl.Address

/-- A letter and a colon or a bar. -/
def isDrive : List Char → Bool
  | [letter, mark] => Text.isAsciiLetter letter && (mark = ':' || mark = '|')
  | _ => false

/-- The segment stands for the folder itself, with the dot written plainly or escaped. -/
def isSelf (segment : List Char) : Bool :=
  match String.ofList (segment.map Char.toLower) with
  | "." | "%2e" => true
  | _ => false

/-- The segment stands for the enclosing folder. -/
def isEnclosing (segment : List Char) : Bool :=
  match String.ofList (segment.map Char.toLower) with
  | ".." | "%2e." | ".%2e" | "%2e%2e" => true
  | _ => false

/-- A path that has got as far as `folders`, the innermost first, comes to a drive at its root. -/
def reachesDrive (folders : List (List Char)) : List (List Char) → Bool
  | [] => false
  | segment :: segments =>
    if isEnclosing segment then
      reachesDrive (if folders.head?.any isDrive then folders else folders.drop 1) segments
    else if isSelf segment then
      reachesDrive folders segments
    else if folders.isEmpty && isDrive segment then
      true
    else
      reachesDrive (segment :: folders) segments

/-- The path after the authority starts at a drive. -/
def startsAtDrive (tail : List Char) : Bool :=
  let path := (tail.takeWhile fun c => c != '?' && c != '#').map fun c => if c = '\\' then '/' else c
  reachesDrive [] ((Text.split '/' path).drop 1)

/-- Reads the host of a file address; `some none` where it has none. -/
def fileHost? (authority tail : List Char) : Option (Option (List Char)) :=
  if authority.isEmpty || isDrive authority then
    some none
  else do
    let host ← domainHost? authority
    some (if String.ofList host = "localhost" || startsAtDrive tail then none else some host)

end CommandUrl.Address

import CommandUrl.Json.Value
import CommandUrl.Text.Digits

/-!
# Writing JSON

A value is written in two ways. The compact form has no white space. The pretty
form gives each item and each member a line of its own, indented by two spaces
for every array or object around it, and writes empty ones on one line. Strings
are written with as few escapes as JSON allows.
-/

namespace CommandUrl.Json

/-- The written form of one character of a string. -/
def escapeChar (c : Char) : List Char :=
  if c = '\x22' then ['\\', '\x22']
  else if c = '\\' then ['\\', '\\']
  else if c = '\x08' then ['\\', 'b']
  else if c = '\x0c' then ['\\', 'f']
  else if c = '\n' then ['\\', 'n']
  else if c = '\r' then ['\\', 'r']
  else if c = '\t' then ['\\', 't']
  else if c.toNat < 0x20 then
    ['\\', 'u', '0', '0', Nat.digitChar (c.toNat / 16), Nat.digitChar (c.toNat % 16)]
  else [c]

/-- A string literal. One without a text is written as the escape of a lone surrogate. -/
def renderString (text : Option String) : List Char :=
  match text with
  | some text => '\x22' :: text.toList.flatMap escapeChar ++ ['\x22']
  | none => ['\x22', '\\', 'u', 'd', '8', '0', '0', '\x22']

mutual

/-- The compact form of a value. -/
def compact : Json → List Char
  | .null => ['n', 'u', 'l', 'l']
  | .bool true => ['t', 'r', 'u', 'e']
  | .bool false => ['f', 'a', 'l', 's', 'e']
  | .number value => value.render
  | .string text => renderString text
  | .array items => '[' :: compactItems items ++ [']']
  | .object members => '\x7b' :: compactMembers members ++ ['\x7d']

/-- The compact forms of items, with commas between them. -/
def compactItems : List Json → List Char
  | [] => []
  | [item] => compact item
  | item :: next :: items => compact item ++ ',' :: compactItems (next :: items)

/-- The compact forms of members, with commas between them. -/
def compactMembers : List (Option String × Json) → List Char
  | [] => []
  | [(name, value)] => renderString name ++ ':' :: compact value
  | (name, value) :: next :: members =>
    renderString name ++ ':' :: compact value ++ ',' :: compactMembers (next :: members)

end

/-- The start of a line inside of `depth` arrays and objects. -/
def indent (depth : Nat) : List Char :=
  '\n' :: List.replicate (2 * depth) ' '

mutual

/-- The pretty form of a value inside of `depth` arrays and objects. -/
def prettyAt (depth : Nat) : Json → List Char
  | .array [] => ['[', ']']
  | .array items => '[' :: prettyItems (depth + 1) items ++ indent depth ++ [']']
  | .object [] => ['\x7b', '\x7d']
  | .object members => '\x7b' :: prettyMembers (depth + 1) members ++ indent depth ++ ['\x7d']
  | .null => ['n', 'u', 'l', 'l']
  | .bool true => ['t', 'r', 'u', 'e']
  | .bool false => ['f', 'a', 'l', 's', 'e']
  | .number value => value.render
  | .string text => renderString text

/-- The pretty forms of items, one a line. -/
def prettyItems (depth : Nat) : List Json → List Char
  | [] => []
  | [item] => indent depth ++ prettyAt depth item
  | item :: next :: items =>
    indent depth ++ prettyAt depth item ++ ',' :: prettyItems depth (next :: items)

/-- The pretty forms of members, one a line. -/
def prettyMembers (depth : Nat) : List (Option String × Json) → List Char
  | [] => []
  | [(name, value)] => indent depth ++ renderString name ++ [':', ' '] ++ prettyAt depth value
  | (name, value) :: next :: members =>
    indent depth ++ renderString name ++ [':', ' '] ++ prettyAt depth value ++
      ',' :: prettyMembers depth (next :: members)

end

/-- The pretty form of a value. -/
def pretty (value : Json) : List Char :=
  prettyAt 0 value

end CommandUrl.Json

import CommandUrl.Json.Number

/-!
# JSON values

A JSON text stands for a tree. Two things are kept that a looser reading would
lose. The members of an object stay in order and may share a name, since it is
for the reader of a record to refuse that. And a string literal need not stand
for a text: its escapes may name half of a surrogate pair, which is well-formed
JSON and harmless where the value is passed over. Such a literal is `none`.
-/

namespace CommandUrl

/-- A JSON value. -/
inductive Json where
  | null
  | bool (value : Bool)
  | number (value : Json.Number)
  /-- A string literal, with its text if it has one. -/
  | string (text : Option String)
  | array (items : List Json)
  /-- The members in order, each a name and a value. -/
  | object (members : List (Option String × Json))
  deriving Repr

namespace Json

/-- A member of an object. -/
abbrev Member := Option String × Json

/-- The value of a text. -/
def text (value : String) : Json :=
  .string (some value)

/-- The value of a text that may be absent. -/
def optionalText (value : Option String) : Json :=
  match value with
  | some value => .text value
  | none => .null

/-- The value of a whole number. -/
def natural (value : Nat) : Json :=
  .number (.ofNat value)

/-- The value of a record with the given members. -/
def record (members : List (String × Json)) : Json :=
  .object (members.map fun (name, value) => (some name, value))

end Json

end CommandUrl

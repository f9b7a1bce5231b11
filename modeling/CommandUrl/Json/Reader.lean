import CommandUrl.Json.Token

/-!
# Reading JSON

The tokens of a JSON text are put together with a stack of the arrays and
objects that are open. Each token takes the stack to the next, so nesting is
bounded by nothing but the text.
-/

namespace CommandUrl.Json

/-- An array or object that is open around a value. What it holds is kept with the last first. -/
inductive Frame where
  | item (items : List Json)
  | member (members : List Member) (name : Option String)
  deriving Repr

/-- What may come next, and inside of what. -/
inductive Position where
  /-- A value. -/
  | value (frames : List Frame)
  /-- A first item, or the end of the array. -/
  | firstItem (frames : List Frame)
  /-- A first name, or the end of the object. -/
  | firstName (frames : List Frame)
  /-- A name after a comma. -/
  | name (members : List Member) (frames : List Frame)
  /-- The colon after a name. -/
  | colon (members : List Member) (name : Option String) (frames : List Frame)
  /-- A comma or the end of the array. -/
  | afterItem (items : List Json) (frames : List Frame)
  /-- A comma or the end of the object. -/
  | afterMember (members : List Member) (frames : List Frame)
  /-- Nothing: the value is complete. -/
  | complete (value : Json)
  deriving Repr

/-- Puts a value into the innermost array or object. -/
def Position.fill (whole : Json) : List Frame → Position
  | [] => .complete whole
  | .item items :: frames => .afterItem (whole :: items) frames
  | .member members label :: frames => .afterMember ((label, whole) :: members) frames

/-- Starts a value. -/
def Position.start (frames : List Frame) : Token → Option Position
  | .scalar whole => some (Position.fill whole frames)
  | .arrayStart => some (.firstItem frames)
  | .objectStart => some (.firstName frames)
  | _ => none

/-- Takes one token. -/
def Position.next : Position → Token → Option Position
  | .value frames, token => Position.start frames token
  | .firstItem frames, .arrayEnd => some (Position.fill (.array []) frames)
  | .firstItem frames, token => Position.start (.item [] :: frames) token
  | .firstName frames, .objectEnd => some (Position.fill (.object []) frames)
  | .firstName frames, .scalar (.string label) => some (.colon [] label frames)
  | .name members frames, .scalar (.string label) => some (.colon members label frames)
  | .colon members label frames, .colon => some (.value (.member members label :: frames))
  | .afterItem items frames, .comma => some (.value (.item items :: frames))
  | .afterItem items frames, .arrayEnd => some (Position.fill (.array items.reverse) frames)
  | .afterMember members frames, .comma => some (.name members frames)
  | .afterMember members frames, .objectEnd =>
    some (Position.fill (.object members.reverse) frames)
  | _, _ => none

/-- Takes tokens from a position on. -/
def Position.run (position : Position) : List Token → Option Position
  | [] => some position
  | token :: tokens => (position.next token).bind (·.run tokens)

/-- The value of a run of tokens. -/
def ofTokens? (tokens : List Token) : Option Json :=
  match Position.run (.value []) tokens with
  | some (.complete value) => some value
  | _ => none

/-- Reads a JSON text. -/
def parse? (text : List Char) : Option Json :=
  (tokens? text).bind ofTokens?

end CommandUrl.Json

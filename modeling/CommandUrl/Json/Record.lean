import CommandUrl.Json.Mismatch

/-!
# Reading records

A record is written as an object, in which members may come in any order and
members of other names are passed over, or as an array of its members in their
declared order. In either form no member may occur twice; an array may leave
out members from the end as far as they have a default, and may not be longer
than the record.
-/

namespace CommandUrl.Json

/-- A text. -/
def toText : Json → Except Mismatch String
  | .string (some text) => .ok text
  | .string none => .error .noText
  | value => .error (.wrongType value "a string")

/-- A text or nothing. -/
def toOptionalText : Json → Except Mismatch (Option String)
  | .null => .ok none
  | value => (toText value).map some

/-- A switch. -/
def toBool : Json → Except Mismatch Bool
  | .bool value => .ok value
  | value => .error (.wrongType value "a boolean")

/-- A whole number of 64 bits without a sign. -/
def toUnsigned : Json → Except Mismatch Nat
  | .number value =>
    match value.unsigned? with
    | some natural => .ok natural
    | none => .error (.wrongType (.number value) "u64")
  | value => .error (.wrongType value "u64")

/-- A list of texts. -/
def toTexts : Json → Except Mismatch (List String)
  | .array items => items.mapM toText
  | value => .error (.wrongType value "a sequence")

/-- A name out of a fixed set, alone or as the one member of an object without a value. -/
def toName {α : Type} (ofName? : String → Option α) : Json → Except Mismatch α
  | .string (some name) | .object [(some name, .null)] =>
    match ofName? name with
    | some value => .ok value
    | none => .error (.unknownName name)
  | .string none => .error .noText
  | value => .error (.wrongType value "a name")

/-- The names of the members of an object, all of which have to be texts. -/
def memberNames (members : List Member) : Except Mismatch (List String) :=
  members.mapM fun (name, _) =>
    match name with
    | some name => .ok name
    | none => .error .noText

/-- The members of a record with the declared names, of which the first `needed` have no default
in the array form. Members of other names are left out. -/
def members (names : List String) (needed : Nat) (expected : String) :
    Json → Except Mismatch (List (String × Json))
  | .object members => do
    let present ← memberNames members
    match names.find? fun name => 1 < present.count name with
    | some name => .error (.repeatedMember name)
    | none => .ok ((present.zip (members.map Prod.snd)).filter fun (name, _) => names.contains name)
  | .array items =>
    if items.length < needed then .error (.tooFewItems items.length)
    else .ok (names.zip items)
  | value => .error (.wrongType value expected)

/-- Refuses an array that is longer than the record. -/
def checkLength (names : List String) : Json → Except Mismatch Unit
  | .array items =>
    if names.length < items.length then .error (.tooManyItems items.length) else .ok ()
  | _ => .ok ()

/-- A member that has to be there. -/
def required {α : Type} (members : List (String × Json)) (name : String)
    (read : Json → Except Mismatch α) : Except Mismatch α :=
  match members.lookup name with
  | some value => read value
  | none => .error (.missingMember name)

/-- A member that takes a default where it is missing. -/
def defaulted {α : Type} (members : List (String × Json)) (name : String)
    (read : Json → Except Mismatch α) (default : α) : Except Mismatch α :=
  match members.lookup name with
  | some value => read value
  | none => .ok default

end CommandUrl.Json

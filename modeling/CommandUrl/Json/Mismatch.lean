import CommandUrl.Json.Floating
import CommandUrl.Json.Value
import CommandUrl.Text.Quoted

/-!
# Mismatches

A value may be well formed and still not be the record that is asked for. What
is wrong with it is a mismatch, which says what was found and what was
expected.
-/

namespace CommandUrl.Json

/-- Why a value is not the record that was asked for. -/
inductive Mismatch where
  | wrongType (found : Json) (expected : String)
  | tooManyItems (count : Nat)
  | tooFewItems (count : Nat)
  | missingMember (name : String)
  | repeatedMember (name : String)
  | unknownName (name : String)
  | noText
  deriving Repr

/-- What a value is called where something else was expected. -/
def describe : Json → String
  | .null => "null"
  | .bool true => "boolean `true`"
  | .bool false => "boolean `false`"
  | .number value => value.describe
  | .string (some text) => "string " ++ String.ofList (Text.quoted text.toList)
  | .string none => "string"
  | .array _ => "sequence"
  | .object _ => "map"

/-- The wording of a mismatch. -/
def Mismatch.message : Mismatch → String
  | wrongType found expected => "invalid type: " ++ found.describe ++ ", expected " ++ expected
  | tooManyItems count => "invalid length " ++ toString count ++ ", expected fewer elements in array"
  | tooFewItems count => "invalid length " ++ toString count ++ ", expected more elements in array"
  | missingMember name => "missing field `" ++ name ++ "`"
  | repeatedMember name => "duplicate field `" ++ name ++ "`"
  | unknownName name => "unknown variant `" ++ name ++ "`"
  | noText => "lone surrogate in string"

end CommandUrl.Json

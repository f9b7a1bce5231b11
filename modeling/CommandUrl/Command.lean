import CommandUrl.Address
import CommandUrl.Failure
import CommandUrl.Query

/-!
# Commands

A command is an address under the configured scheme whose host is a word and
whose query gives the parameters. Text that is no address gets a second chance
with everything escaped that could have been in its way, so that a command
typed with raw blanks is understood where that is possible.
-/

namespace CommandUrl

/-- A well-formed command, whose word need not be a known verb. -/
structure Command where
  scheme : String
  word : String
  parameters : List Parameter
  deriving Repr, DecidableEq

namespace Command

/-- A character that the second attempt escapes: everything that a query would have to escape, and
the percent sign. -/
def escapedOnRetry (c : Char) : Bool :=
  Percent.isControl c || c = ' ' || c = '"' || c = '#' || c = '%' || c = '<' || c = '>' ||
    c = '[' || c = '\\' || c = ']' || c = '^' || c = '`' || c = '{' || c = '|' || c = '}'

/-- Reads an address, escaping it first if it cannot be read as it stands. Only text that has no
scheme either way is said to lack one. -/
def address (raw : String) : Except Failure Address :=
  match Address.parse raw.toList with
  | .ok address => .ok address
  | .error first =>
    match first, Address.parse (Percent.encode escapedOnRetry raw.toList) with
    | _, .ok address => .ok address
    | .noScheme, .error .noScheme => .error (.missingScheme raw)
    | _, .error _ => .error (.malformedUrl raw)

/-- Reads a command under the scheme `expected`. The scheme is judged before the word. -/
def parse (raw expected : String) : Except Failure Command := do
  let address ← address raw
  let scheme := String.ofList address.scheme
  if scheme != expected then
    throw (.wrongScheme scheme)
  match address.host with
  | none => throw (.missingCommand raw)
  | some host =>
    pure { scheme, word := String.ofList host, parameters := Query.parameters address.query }

end Command

end CommandUrl

import CommandUrl.Text.Percent
import CommandUrl.Text.Split

/-!
# Queries

A query is a list of parameters between ampersands, each a label and a value
around an equals sign. The order and the repetitions of the parameters matter,
since a command works through them from left to right. A piece that is not of
this form is passed over and does not touch its neighbours.
-/

namespace CommandUrl

/-- One parameter of a command. -/
structure Parameter where
  label : String
  value : String
  deriving Repr, DecidableEq

namespace Query

/-- Reads one piece of a query: a label that is taken as it stands, one equals sign, and a value
that is decoded. -/
def parameter? (piece : List Char) : Option Parameter :=
  match Text.split '=' piece with
  | [label, value] =>
    (Percent.decode? value).map fun value => ⟨String.ofList label, String.ofList value⟩
  | _ => none

/-- The parameters of a query, in order. -/
def parameters (query : List Char) : List Parameter :=
  (Text.split '&' query).filterMap parameter?

end Query

end CommandUrl

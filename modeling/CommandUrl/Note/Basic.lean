import CommandUrl.Link

/-!
# Notes and collections

What the interpreter knows of a note and of the collection that holds it: a note
has an identifier, a title and perhaps a file, a collection declares the labels
of its fields and says whether its notes carry a timestamp.
-/

namespace CommandUrl

/-- A note of a collection. -/
structure NoteRef where
  id : String
  title : String
  filePath : Option String
  deriving Repr, DecidableEq

/-- What a collection declares about its notes. -/
structure Schema where
  fieldLabels : List String
  hasTimestamp : Bool
  deriving Repr, DecidableEq

/-- Who asks a view to focus a note. -/
inductive FocusOrigin where
  /-- A command that came as an address. -/
  | command
  /-- A link from one note to another. -/
  | noteLink
  deriving Repr, DecidableEq

/-- The tag of an origin. -/
def FocusOrigin.tag : FocusOrigin → String
  | command => "custom-url-actor"
  | noteLink => "note-link-resolver"

/-- What a view is told when it is to show a note. -/
structure FocusRequest where
  origin : FocusOrigin
  note : NoteRef
  position : Option Nat := none
  row : Option Nat := none
  searchPhrase : Option String := none
  deriving Repr, DecidableEq

end CommandUrl

import CommandUrl.Text.Blank

/-!
# Links and windows

A link names something that a window can be opened for. It has a path, and an
address that is the path after a marker, so either determines the other. What
kind of thing is there is unknown until somebody has looked.
-/

namespace CommandUrl

/-- What a link leads to. -/
inductive LinkKind where
  | collection
  | folder
  | script
  | file
  | unknown
  deriving Repr, DecidableEq

namespace LinkKind

/-- The name of a kind. -/
def name : LinkKind → String
  | collection => "collection"
  | folder => "folder"
  | script => "script"
  | file => "file"
  | unknown => "unknown"

/-- The name of a kind as a proper name. -/
def properName : LinkKind → String
  | collection => "Collection"
  | folder => "Folder"
  | script => "Script"
  | file => "File"
  | unknown => "Unknown"

/-- All kinds. -/
def all : List LinkKind := [collection, folder, script, file, unknown]

/-- The kind of a name. -/
def ofName? (name : String) : Option LinkKind :=
  all.find? (·.name = name)

end LinkKind

/-- A reference to something that a window can be opened for. -/
structure Link where
  url : String
  path : String
  kind : LinkKind := .unknown
  deriving Repr, DecidableEq

namespace Link

/-- What stands before the path in the address of a link. -/
def marker : String := "file://"

/-- A text without the marker, if it starts with one; only one is taken away. -/
def withoutMarker (text : String) : String :=
  match marker.toList.isPrefixOf? text.toList with
  | some bare => String.ofList bare
  | none => text

/-- The link of a path, which may carry the marker already. Blank text names nothing. -/
def ofText? (text : String) : Option Link :=
  let bare := withoutMarker text
  if Text.isBlank bare.toList then none else some { url := marker ++ bare, path := bare }

end Link

/-- An open window, known by the number that its host gave it. -/
structure Window where
  id : Nat
  link : Link
  deriving Repr, DecidableEq

/-- The folders that go by an alias. -/
inductive SpecialFolder where
  | essential
  | general
  deriving Repr, DecidableEq

namespace SpecialFolder

/-- The alias of a folder. -/
def name : SpecialFolder → String
  | essential => "essential"
  | general => "general"

/-- The folder of an alias. -/
def ofName? (name : String) : Option SpecialFolder :=
  [essential, general].find? (·.name = name)

end SpecialFolder

end CommandUrl

import CommandUrl.Json.Record
import CommandUrl.Note.Draft
import CommandUrl.Query
import CommandUrl.Settings
import CommandUrl.Verb

/-!
# The records in JSON

The JSON forms of the types that are stored or passed between programs. Every
type here that can be read has a form that is written, with its members in
their declared order.
-/

namespace CommandUrl

open Json

namespace LinkKind

/-- The JSON form of a kind. -/
def toJson (kind : LinkKind) : Json := .text kind.name

/-- Reads a kind. -/
def ofJson : Json → Except Mismatch LinkKind := toName ofName?

end LinkKind

namespace SpecialFolder

/-- The JSON form of a folder with an alias. -/
def toJson (folder : SpecialFolder) : Json := .text folder.name

/-- Reads a folder with an alias. -/
def ofJson : Json → Except Mismatch SpecialFolder := toName ofName?

end SpecialFolder

namespace Verb

/-- The JSON form of a verb. -/
def toJson (verb : Verb) : Json := .text verb.name

/-- Reads a verb, by its own name only. -/
def ofJson : Json → Except Mismatch Verb := toName ofName?

end Verb

namespace Link

/-- The members of a link. -/
def memberNames : List String := ["url", "path", "linkType"]

/-- The JSON form of a link. -/
def toJson (link : Link) : Json :=
  .record [("url", .text link.url), ("path", .text link.path), ("linkType", link.kind.toJson)]

/-- Reads a link, of an unknown kind where none is given. -/
def ofJson (value : Json) : Except Mismatch Link := do
  let members ← Json.members memberNames 2 "struct CollectionLink" value
  let url ← required members "url" toText
  let path ← required members "path" toText
  let kind ← defaulted members "linkType" LinkKind.ofJson .unknown
  checkLength memberNames value
  pure { url, path, kind }

end Link

namespace Window

/-- The members of a window. -/
def memberNames : List String := ["id", "link"]

/-- The JSON form of a window. -/
def toJson (window : Window) : Json :=
  .record [("id", .natural window.id), ("link", window.link.toJson)]

/-- Reads a window. -/
def ofJson (value : Json) : Except Mismatch Window := do
  let members ← Json.members memberNames 2 "struct WindowHandle" value
  let id ← required members "id" toUnsigned
  let link ← required members "link" Link.ofJson
  checkLength memberNames value
  pure { id, link }

end Window

namespace NoteRef

/-- The members of a note. -/
def memberNames : List String := ["id", "title", "filePath"]

/-- The JSON form of a note. -/
def toJson (note : NoteRef) : Json :=
  .record [("id", .text note.id), ("title", .text note.title),
    ("filePath", .optionalText note.filePath)]

/-- Reads a note. Its file may be missing from an object, not from an array. -/
def ofJson (value : Json) : Except Mismatch NoteRef := do
  let members ← Json.members memberNames 3 "struct NoteRef" value
  let id ← required members "id" toText
  let title ← required members "title" toText
  let filePath ← defaulted members "filePath" toOptionalText none
  checkLength memberNames value
  pure { id, title, filePath }

end NoteRef

namespace Schema

/-- The members of a schema. -/
def memberNames : List String := ["fieldLabels", "hasTimestamp"]

/-- The JSON form of a schema. -/
def toJson (schema : Schema) : Json :=
  .record [("fieldLabels", .array (schema.fieldLabels.map .text)),
    ("hasTimestamp", .bool schema.hasTimestamp)]

/-- Reads a schema. -/
def ofJson (value : Json) : Except Mismatch Schema := do
  let members ← Json.members memberNames 2 "struct CollectionSchema" value
  let fieldLabels ← required members "fieldLabels" toTexts
  let hasTimestamp ← required members "hasTimestamp" toBool
  checkLength memberNames value
  pure { fieldLabels, hasTimestamp }

end Schema

namespace Parameter

/-- The members of a parameter. -/
def memberNames : List String := ["label", "value"]

/-- The JSON form of a parameter. -/
def toJson (parameter : Parameter) : Json :=
  .record [("label", .text parameter.label), ("value", .text parameter.value)]

/-- Reads a parameter. -/
def ofJson (value : Json) : Except Mismatch Parameter := do
  let members ← Json.members memberNames 2 "struct QueryParam" value
  let label ← required members "label" toText
  let text ← required members "value" toText
  checkLength memberNames value
  pure { label, value := text }

end Parameter

namespace Draft

/-- The JSON form of a draft, without the schema it is bound to. -/
def toJson (draft : Draft) : Json :=
  .record [("title", .optionalText draft.title), ("body", .optionalText draft.body),
    ("date", .optionalText draft.date),
    ("fields", .record (draft.fields.map fun (label, value) => (label, .text value)))]

end Draft

namespace Settings

/-- The members of the settings. -/
def memberNames : List String :=
  ["urlScheme", "essentialFolder", "generalFolder", "alertOnError", "logLevel"]

/-- The JSON form of the settings. -/
def toJson (settings : Settings) : Json :=
  .record [("urlScheme", .text settings.urlScheme),
    ("essentialFolder", .optionalText settings.essentialFolder),
    ("generalFolder", .optionalText settings.generalFolder),
    ("alertOnError", .bool settings.alertOnError), ("logLevel", .text settings.logLevel)]

/-- The settings with one member as a value gives it. -/
def setMember (settings : Settings) (name : String) (value : Json) : Except Mismatch Settings :=
  match name with
  | "urlScheme" => (toText value).map fun urlScheme => { settings with urlScheme }
  | "essentialFolder" =>
    (toOptionalText value).map fun essentialFolder => { settings with essentialFolder }
  | "generalFolder" => (toOptionalText value).map fun generalFolder => { settings with generalFolder }
  | "alertOnError" => (toBool value).map fun alertOnError => { settings with alertOnError }
  | "logLevel" => (toText value).map fun logLevel => { settings with logLevel }
  | _ => .ok settings

/-- Reads the settings. A member that is missing keeps its default, and of several members that
cannot be read the first is the one complained about. -/
def ofJson (value : Json) : Except Mismatch Settings := do
  let members ← Json.members memberNames 0 "struct AppSettings" value
  let settings ← members.foldlM (fun settings (name, value) => settings.setMember name value) default
  checkLength memberNames value
  pure settings

end Settings

end CommandUrl

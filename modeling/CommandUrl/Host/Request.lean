import CommandUrl.Failure
import CommandUrl.Note.Draft

/-!
# Requests to the host

The interpreter opens no window and finds no note itself. It asks its host, an
application that knows collections and has windows, and goes on with the
answer. A request is a value, and the type of its answer is a function of it.
-/

namespace CommandUrl

/-- Something the interpreter asks of its host. -/
inductive Request where
  /-- The link that a shortcut has among the collections opened together. -/
  | multiLink (shortcut : String)
  /-- The link that a shortcut has among single collections. -/
  | shortcutLink (shortcut : String)
  /-- The link of a collection known by its path. -/
  | pathLink (path : String)
  /-- The link of a folder with an alias. -/
  | specialLink (folder : SpecialFolder)
  /-- The path of the note that was selected last. -/
  | lastSelectedPath
  /-- The kind of thing that a link leads to. -/
  | classify (link : Link)
  /-- A window for a link, new or already open. -/
  | openWindow (link : Link)
  /-- A window for the knowledge base. -/
  | openKnowledgeBase
  | showPreferences
  /-- To focus a note in a window; the view may decline. -/
  | focus (window : Window) (request : FocusRequest)
  | showNavigation (window : Window)
  | expandTag (window : Window) (tag : String)
  /-- To open an attachment of the selected note. -/
  | openAttachment (window : Window) (title : String)
  /-- To select some note, and perhaps to log which. -/
  | selectRandom (window : Window) (logged : Bool)
  | selectNote (window : Window)
  | ensureQuotesMode (window : Window)
  | schema (window : Window)
  /-- The note that goes by a name: an identifier, a title or an alias. -/
  | noteKnownAs (window : Window) (name : String)
  | noteForId (window : Window) (id : String)
  | noteForTimestamp (window : Window) (timestamp : String)
  | selectedNote (window : Window)
  /-- To add a draft to its collection. -/
  | addNote (window : Window) (draft : Draft)
  /-- To run a script, at once or when its turn comes. -/
  | launch (script : String) (immediate : Bool)
  /-- To show what is at a path. -/
  | reveal (path : String)
  /-- To tell the user of a failure. -/
  | alert (failure : Failure)
  deriving Repr, DecidableEq

/-- The type of the answer to a request. -/
abbrev Request.Answer : Request → Type
  | multiLink _ | shortcutLink _ | pathLink _ | specialLink _ => Option Link
  | lastSelectedPath => Option String
  | classify _ => LinkKind
  | openWindow _ | openKnowledgeBase => Option Window
  | showPreferences | showNavigation _ | expandTag .. | selectRandom .. | selectNote _
  | ensureQuotesMode _ | launch .. | alert _ => Unit
  | focus .. | openAttachment .. | reveal _ => Bool
  | schema _ => Option Schema
  | noteKnownAs .. | noteForId .. | noteForTimestamp .. | selectedNote _ | addNote .. =>
    Option NoteRef

/-- A request with the answer it got. -/
structure Exchange where
  request : Request
  answer : request.Answer

end CommandUrl

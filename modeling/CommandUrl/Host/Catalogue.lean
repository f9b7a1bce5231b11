import CommandUrl.File.Classify
import CommandUrl.Host.Conversation
import CommandUrl.Settings

/-!
# A host that goes by a catalogue

A host for trying out the interpreter without an application. It knows its
collections and notes from a catalogue, gives every address the window number
it got when it was first opened, keeps the preferences, and has a file system
of its own. Collections are told apart by the path of their link.
-/

namespace CommandUrl

/-- The collections and notes that a host knows, and what it refuses to do. -/
structure Catalogue where
  /-- The paths of the shortcuts of collections opened together. -/
  multi : List (String × String) := []
  /-- The paths of the shortcuts of single collections. -/
  shortcuts : List (String × String) := []
  /-- The paths of the collections known by a path. -/
  paths : List (String × String) := []
  knowledgeBase : Option String := none
  /-- The schemas by path; a path that is listed without one has an unreadable schema. -/
  schemas : List (String × Option Schema) := []
  notes : List (String × List NoteRef) := []
  selected : List (String × NoteRef) := []
  /-- The kinds of links by path; without this list the files are looked at. -/
  kinds : Option (List (String × LinkKind)) := none
  /-- The addresses for which no window opens. -/
  refusedUrls : List String := []
  rejectsAdds : Bool := false
  refusesReveal : Bool := false
  refusesFocus : Bool := false
  refusesAttachment : Bool := false

namespace Catalogue

/-- The schema of a collection that the catalogue says nothing about. -/
def standardSchema : Schema :=
  { fieldLabels := ["Title", "Body", "Date", "Tags"], hasTimestamp := false }

/-- The link that a list of paths gives for a name. -/
def linkOf (entries : List (String × String)) (name : String) : Option Link :=
  (entries.lookup name).bind Link.ofText?

/-- The notes of a collection. -/
def notesOf (catalogue : Catalogue) (window : Window) : List NoteRef :=
  (catalogue.notes.lookup window.link.path).getD []

end Catalogue

/-- The state of a host that goes by a catalogue. -/
structure CatalogueState where
  catalogue : Catalogue
  preferences : Settings
  lastSelected : Option String
  /-- The addresses that windows have been opened for, in order. -/
  opened : List String := []
  tree : FileTree

namespace CatalogueState

/-- Opens a window, under the number of its address. -/
def openWindow (state : CatalogueState) (link : Link) : Option Window × CatalogueState :=
  if state.catalogue.refusedUrls.contains link.url then
    (none, state)
  else
    let opened :=
      if state.opened.contains link.url then state.opened else state.opened ++ [link.url]
    (some { id := 1 + opened.idxOf link.url, link }, { state with opened })

/-- The answer to a request, and the state after it. -/
def answer (state : CatalogueState) : (request : Request) → request.Answer × CatalogueState
  | .multiLink shortcut => (Catalogue.linkOf state.catalogue.multi shortcut, state)
  | .shortcutLink shortcut => (Catalogue.linkOf state.catalogue.shortcuts shortcut, state)
  | .pathLink path => (Catalogue.linkOf state.catalogue.paths path, state)
  | .specialLink folder => (state.preferences.specialFolder? folder, state)
  | .lastSelectedPath => (state.lastSelected, state)
  | .classify link =>
    match state.catalogue.kinds with
    | some kinds => ((kinds.lookup link.path).getD .unknown, state)
    | none => (state.tree.classify link, state)
  | .openWindow link => state.openWindow link
  | .openKnowledgeBase =>
    match state.catalogue.knowledgeBase.bind Link.ofText? with
    | some link => state.openWindow link
    | none => (none, state)
  | .showPreferences | .showNavigation _ | .expandTag .. | .selectRandom .. | .selectNote _
  | .ensureQuotesMode _ | .launch .. | .alert _ => ((), state)
  | .focus .. => (!state.catalogue.refusesFocus, state)
  | .openAttachment .. => (!state.catalogue.refusesAttachment, state)
  | .reveal _ => (!state.catalogue.refusesReveal, state)
  | .schema window =>
    match state.catalogue.schemas.lookup window.link.path with
    | some schema => (schema, state)
    | none => (some Catalogue.standardSchema, state)
  | .noteKnownAs window name =>
    ((state.catalogue.notesOf window).find? fun note =>
      note.id = name || commonForm note.title = commonForm name, state)
  | .noteForId window id | .noteForTimestamp window id =>
    ((state.catalogue.notesOf window).find? (·.id = id), state)
  | .selectedNote window => (state.catalogue.selected.lookup window.link.path, state)
  | .addNote _ draft =>
    if state.catalogue.rejectsAdds then
      (none, state)
    else
      let title := draft.title.getD ""
      (some { id := commonForm title, title, filePath := none }, state)

end CatalogueState

/-- The host that goes by a catalogue. -/
def catalogueHost : Host CatalogueState where
  answer := CatalogueState.answer
  files := CatalogueState.tree

end CommandUrl

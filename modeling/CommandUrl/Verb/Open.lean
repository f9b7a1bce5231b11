import CommandUrl.File.Tree
import CommandUrl.Verb.Procedure

/-!
# Opening notes

The verb `open` opens collections and shows notes in them. A note is named by
what it is known as, by its timestamp, or by the path of its file, which opens
its folder as well; other parameters open attachments, select notes and switch
modes in the collection that is open.
-/

namespace CommandUrl.Verb

variable {σ : Type}

/-- What is said where no note is found by an identifier. -/
def noNoteWithId (id : String) : String :=
  "Note could not be found with this ID: " ++ id

/-- Focuses the note with a timestamp, in a collection whose notes have one. -/
def openTimestamp (host : Host σ) (window : Window) (timestamp : String) : Handling σ Unit := do
  let schema ← Handling.ask host (.schema window)
  if !schema.any (·.hasTimestamp) then
    throw (.noteNotFound "Indicated Collection does not have a Timestamp field")
  let found ← Handling.ask host (.noteForTimestamp window timestamp)
  Handling.focusFound host window found
    ("Note could not be found with this Timestamp: " ++ timestamp)

/-- Opens the folder that holds a note file, and focuses the note whose identifier is the common
form of the name of the file. -/
def openNotePath (host : Host σ) (path : String) : Handling σ Unit := do
  let files ← Handling.files host
  if !files.pathExists path then
    throw (.noteNotFound ("Note file could not be located: " ++ path))
  match (Path.ofText path).parent? with
  | none => throw (.collectionNotFound ("Note file has no parent folder: " ++ path))
  | some folder =>
    let window ← Handling.establish host { path := some folder.text }
    let id := commonForm (String.ofList ((Path.ofText path).stem?.getD []))
    let found ← Handling.ask host (.noteForId window id)
    Handling.focusFound host window found (noNoteWithId path)

/-- Opens an attachment of the selected note. -/
def openAttachment (host : Host σ) (window : Window) (title : String) : Handling σ Unit := do
  let selected ← Handling.ask host (.selectedNote window)
  if selected.isNone then
    throw (.noteNotFound ("No note is selected to open attachment '" ++ title ++ "'"))
  let opened ← Handling.ask host (.openAttachment window title)
  if !opened then
    throw (.noteNotFound ("Attachment '" ++ title ++ "' could not be opened"))

/-- Takes one parameter of `open`. -/
def openParameter (host : Host σ) (parameter : Parameter) : Handling σ Unit := do
  let label := parameter.label
  let value := parameter.value
  let refuse : Handling σ Unit := throw (.invalidParameterValue openNote.name label value)
  match parameter.locator? with
  | some locator =>
    let _ ← Handling.establish host locator
  | none =>
    match label with
    | "id" =>
      let window ← Handling.requireCollection label
      let found ← Handling.ask host (.noteKnownAs window value)
      Handling.focusFound host window found (noNoteWithId value)
    | "timestamp" =>
      let window ← Handling.requireCollection label
      openTimestamp host window value
    | "notepath" => openNotePath host value
    | "attachment" =>
      let window ← Handling.requireCollection label
      openAttachment host window value
    | "select" =>
      let window ← Handling.requireCollection label
      match value with
      | "random" => Handling.ask host (.selectRandom window false)
      | "randompick" => Handling.ask host (.selectRandom window true)
      | "action" => Handling.ask host (.selectNote window)
      | _ => refuse
    | "mode" =>
      if value = "quotes" then
        let window ← Handling.requireCollection label
        Handling.ask host (.ensureQuotesMode window)
      else
        refuse
    | _ => throw (.unrecognizedParameter openNote.name label)

/-- The procedure of `open`. -/
def openProcedure (host : Host σ) : Procedure σ where
  start := pure (.ok {})
  parameter := openParameter host
  finish _ := pure none

end CommandUrl.Verb

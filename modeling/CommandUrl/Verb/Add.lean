import CommandUrl.Verb.Procedure

/-!
# Adding notes

The verb `add` writes a note into a draft and adds it at the end. Naming a
collection begins a new draft under the schema of that collection; a collection
without a schema leaves no draft at all, so that nothing is added to a
collection which the draft is not bound to. Every other label is content.
-/

namespace CommandUrl.Verb

variable {σ : Type}

/-- The part of a note that a label writes. -/
inductive Slot where
  | title
  | body
  | date
  /-- A field of the collection, by any spelling of its label. -/
  | field (label : String)
  deriving Repr, DecidableEq

/-- The part of a note that a label writes; three parts go by several labels. -/
def Slot.ofLabel (label : String) : Slot :=
  match label with
  | "title" | "name" => title
  | "body" | "note" => body
  | "date" | "due" | "completed" => date
  | label => field label

/-- The draft with a value in one of its parts, if the collection has that part. -/
def Slot.write? (slot : Slot) (draft : Draft) (value : String) : Option Draft :=
  match slot with
  | title => some (draft.setTitle value)
  | body => some (draft.setBody value)
  | date => some (draft.setDate value)
  | field label => draft.setField? label value

/-- Opens a collection and begins a draft in it. -/
def beginDraft (host : Host σ) (locator : Locator) : Handling σ Unit := do
  let window ← Handling.establish host locator
  let schema ← Handling.ask host (.schema window)
  modify fun context => { context with draft := schema.map Draft.new }
  if schema.isNone then
    throw (.collectionNotFound ("Collection at " ++ window.link.url ++ " has no readable schema"))

/-- Writes a parameter into the draft. -/
def writeDraft (parameter : Parameter) : Handling σ Unit := do
  match (← get).draft with
  | none => throw (.missingContext parameter.label)
  | some draft =>
    match (Slot.ofLabel parameter.label).write? draft parameter.value with
    | some written => modify fun context => { context with draft := some written }
    | none => throw (.fieldSetFailed parameter.label)

/-- Takes one parameter of `add`. -/
def addParameter (host : Host σ) (parameter : Parameter) : Handling σ Unit :=
  match parameter.locator? with
  | some locator => beginDraft host locator
  | none => writeDraft parameter

/-- Adds the draft to its collection. -/
def commitDraft (host : Host σ) (context : Context) : Dialogue σ (Option ReportEntry) :=
  match context.collection, context.draft with
  | some window, some draft => do
    match ← Dialogue.ask host (.addNote window draft) with
    | some note => pure (some (.remark ("Added new Note titled " ++ note.title)))
    | none => pure (some (.failure (.noteCommitFailed "Note could not be added")))
  | _, _ => pure none

/-- The procedure of `add`. -/
def addProcedure (host : Host σ) : Procedure σ where
  start := pure (.ok {})
  parameter := addParameter host
  finish := commitDraft host

end CommandUrl.Verb

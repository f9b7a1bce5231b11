import CommandUrl.Locator
import CommandUrl.Query
import CommandUrl.Report
import CommandUrl.Verb

/-!
# How verbs work

A verb works through its parameters from left to right. What one parameter
leaves for the next is the context: the collection that was opened last, the
draft begun in it, and the script to be run. A parameter either takes effect or
fails, and a failure is reported and does not stop the ones after it. Since
reporting is left to the loop, a parameter cannot report more than once, and
what it did to the context before it failed stays done.

So a verb is a procedure of three parts: what it does before the first
parameter, at each parameter, and after the last.
-/

namespace CommandUrl

/-- What one parameter leaves for the next. -/
structure Context where
  /-- The window of the collection that was opened last. -/
  collection : Option Window := none
  /-- The note to be added to that collection. -/
  draft : Option Draft := none
  /-- The path of the script to be run. -/
  script : Option String := none
  /-- The script is to be run at once. -/
  immediate : Bool := false
  deriving Repr, DecidableEq

/-- What a parameter does: it talks to the host, changes the context, and may fail. -/
abbrev Handling (σ : Type) := ExceptT Failure (StateT Context (Dialogue σ))

/-- The three parts of a verb. -/
structure Procedure (σ : Type) where
  /-- The context to begin with, or why the verb does not begin. -/
  start : Dialogue σ (Except Failure Context)
  parameter : Parameter → Handling σ Unit
  /-- What is done at the end, and what is reported of it. -/
  finish : Context → Dialogue σ (Option ReportEntry)

namespace Handling

variable {σ : Type}

/-- Puts a request to the host. -/
def ask (host : Host σ) (request : Request) : Handling σ request.Answer :=
  ExceptT.lift (StateT.lift (Dialogue.ask host request))

/-- Writes an event to the log. -/
def log (event : Event) : Handling σ Unit :=
  ExceptT.lift (StateT.lift (Dialogue.log event))

/-- The files as they are now. -/
def files (host : Host σ) : Handling σ FileTree :=
  ExceptT.lift (StateT.lift (Dialogue.files host))

/-- Opens the collection that a locator names and makes it the one that later parameters act on.
Where that fails, the earlier collection stays. -/
def establish (host : Host σ) (locator : Locator) : Handling σ Window := do
  match ← ExceptT.lift (StateT.lift (locator.resolve host)) with
  | .error failure => throw failure
  | .ok window => do
    modify fun context => { context with collection := some window }
    pure window

/-- The collection that the parameter with the given label acts on. -/
def requireCollection (label : String) : Handling σ Window := do
  match (← get).collection with
  | some window => pure window
  | none => throw (.missingContext label)

/-- Focuses a note. A view that declines is logged and not held against the parameter. -/
def focus (host : Host σ) (window : Window) (note : NoteRef) : Handling σ Unit := do
  let focused ← ask host (.focus window { origin := .command, note })
  if !focused then
    log (.focusDeclined window.id note.id)

/-- Focuses the note that a search has found, or fails saying what was searched for. -/
def focusFound (host : Host σ) (window : Window) (found : Option NoteRef) (missing : String) :
    Handling σ Unit :=
  match found with
  | some note => focus host window note
  | none => throw (.noteNotFound missing)

end Handling

namespace Parameter

/-- The locator that a parameter gives, if its label names a collection. -/
def locator? (parameter : Parameter) : Option Locator :=
  match parameter.label with
  | "shortcut" => some { shortcut := some parameter.value }
  | "path" => some { path := some parameter.value }
  | "special" => some { special := some parameter.value }
  | _ => none

end Parameter

namespace Procedure

variable {σ : Type}

/-- Takes one parameter, reporting it if it fails. -/
def step (host : Host σ) (procedure : Procedure σ) (context : Context) (parameter : Parameter) :
    Reporting σ Context :=
  fun report => do
    let (outcome, context) ← (procedure.parameter parameter).run.run context
    match outcome with
    | .ok () => pure (context, report)
    | .error failure =>
      let ((), report) ← Report.fail host failure report
      pure (context, report)

/-- Takes parameters from left to right. -/
def steps (host : Host σ) (procedure : Procedure σ) (context : Context)
    (parameters : List Parameter) : Reporting σ Context :=
  parameters.foldlM (procedure.step host) context

/-- Reports what came of the end. -/
def conclude (host : Host σ) : Option ReportEntry → Reporting σ Unit
  | none => pure ()
  | some (.remark message) => Report.remark message
  | some (.failure cause) => Report.fail host cause

/-- Carries out a procedure. One that does not begin takes no parameter. -/
def run (host : Host σ) (procedure : Procedure σ) (parameters : List Parameter) :
    Reporting σ Unit := do
  match ← (StateT.lift procedure.start : Reporting σ _) with
  | .error failure => Report.fail host failure
  | .ok context =>
    let context ← procedure.steps host context parameters
    let entry ← (StateT.lift (procedure.finish context) : Reporting σ _)
    conclude host entry

end Procedure

end CommandUrl

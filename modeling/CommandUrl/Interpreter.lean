import CommandUrl.Command
import CommandUrl.Settings
import CommandUrl.Verb.Add
import CommandUrl.Verb.Browse
import CommandUrl.Verb.Desktop
import CommandUrl.Verb.Open

/-!
# The interpreter

A raw text is acted on in three stages. It is read as a command under the
configured scheme, its word is matched to a verb, and the verb is carried out.
The first two stages refuse the text as a whole, with one failure and without
asking the host for anything but an alert. Once a verb is carried out the text
is accepted, however many of its parameters fail.

Beside commands there are two ways into the same collections: opening a link,
and following a link from one note to another.
-/

namespace CommandUrl

variable {σ : Type}

namespace Verb

/-- The procedure of a verb. -/
def procedure (host : Host σ) : Verb → Procedure σ
  | add => addProcedure host
  | help => helpProcedure host
  | expand => expandProcedure host
  | openNote => openProcedure host
  | prefs => prefsProcedure host
  | run => runProcedure host
  | find => findProcedure host

/-- Carries out a verb with its parameters. -/
def carryOut (host : Host σ) (verb : Verb) (parameters : List Parameter) : Reporting σ Unit := do
  Report.setVerb verb.name
  (verb.procedure host).run host parameters

end Verb

/-- What became of a raw text. -/
structure Outcome where
  accepted : Bool
  verb : Option Verb
  entries : List ReportEntry
  deriving Repr, DecidableEq

namespace Interpreter

/-- The verb and the parameters that a raw text asks for. -/
def request (settings : Settings) (raw : String) : Except Failure (Verb × List Parameter) := do
  let command ← Command.parse raw settings.urlScheme
  match Verb.parse? command.word with
  | some verb => pure (verb, command.parameters)
  | none => throw (.unknownCommand command.word)

/-- Acts on a raw text. -/
def act (host : Host σ) (settings : Settings) (raw : String) : Dialogue σ Outcome := do
  let report : Report := { alerting := settings.alertOnError }
  match request settings raw with
  | .error failure =>
    let ((), report) ← Report.fail host failure report
    pure { accepted := false, verb := none, entries := report.entries }
  | .ok (verb, parameters) =>
    let ((), report) ← verb.carryOut host parameters report
    Dialogue.log (.completed verb report.failures.length)
    pure { accepted := true, verb := some verb, entries := report.entries }

/-- Opens a link, and focuses the note known as `id` unless that is empty. Says whether everything
that was asked for was found. -/
def openLink (host : Host σ) (link : Link) (id : String) : Dialogue σ Bool := do
  match ← Dialogue.ask host (.openWindow link) with
  | none => pure false
  | some window =>
    if id.isEmpty then
      pure true
    else
      match ← Dialogue.ask host (.noteKnownAs window id) with
      | none => pure false
      | some note =>
        let _ ← Dialogue.ask host (.focus window { origin := .command, note })
        pure true

/-- Follows a link to a note of the collection with a shortcut. An empty shortcut means the current
window, if there is one; a shortcut that leads nowhere never does. -/
def followNoteLink (host : Host σ) (current : Option Window) (shortcut : String) (note : NoteRef) :
    Dialogue σ (Option Window) := do
  let focus (window : Window) : Dialogue σ (Option Window) := do
    let _ ← Dialogue.ask host (.focus window { origin := .noteLink, note })
    pure (some window)
  match if shortcut.isEmpty then current else none with
  | some window => focus window
  | none =>
    match ← Locator.shortcutLink host shortcut with
    | none => do
      Dialogue.log (.unknownCollection shortcut)
      pure none
    | some link =>
      match ← Dialogue.ask host (.openWindow link) with
      | none => do
        Dialogue.log (.collectionNotOpened link.url)
        pure none
      | some window => focus window

end Interpreter

end CommandUrl

import CommandUrl.File.Path
import CommandUrl.Verb.Procedure

/-!
# Verbs without a collection

Three verbs that open no collection. The verb `run` gathers a script and how
soon it is to run, in either order, and launches it at the end. The verb `find`
shows what is at a path, seen from the folder of the note that was selected
last. The verb `prefs` shows the preferences and takes no parameters.
-/

namespace CommandUrl

/-- A path as seen from the folder of a note, or as it stands where there is no such folder. -/
def Path.beside (note : Option String) (path : String) : String :=
  match note.bind fun note => if note.isEmpty then none else (Path.ofText note).parent? with
  | some folder => Path.join folder.text path
  | none => path

namespace Verb

variable {σ : Type}

/-- Makes a path the script to be run, if it leads to one. -/
def chooseScript (host : Host σ) (path : String) : Handling σ Unit := do
  match Link.ofText? path with
  | none => throw (.scriptPathInvalid ("Run path of '" ++ path ++ "' could not be resolved"))
  | some link =>
    let kind ← Handling.ask host (.classify link)
    if kind = .script then
      modify fun context => { context with script := some link.path }
    else
      throw (.scriptPathInvalid
        ("Run path of '" ++ path ++ "' does not point to a valid script file"))

/-- Takes one parameter of `run`. -/
def runParameter (host : Host σ) (parameter : Parameter) : Handling σ Unit := do
  match parameter.label with
  | "go" =>
    match parameter.value with
    | "now" => modify fun context => { context with immediate := true }
    | "wait" => modify fun context => { context with immediate := false }
    | value => throw (.invalidParameterValue run.name parameter.label value)
  | "path" => chooseScript host parameter.value
  | label => throw (.unrecognizedParameter run.name label)

/-- Launches the script that was gathered. -/
def launchScript (host : Host σ) (context : Context) : Dialogue σ (Option ReportEntry) := do
  if let some script := context.script then
    Dialogue.ask host (.launch script context.immediate)
  pure none

/-- The procedure of `run`. -/
def runProcedure (host : Host σ) : Procedure σ where
  start := pure (.ok {})
  parameter := runParameter host
  finish := launchScript host

/-- Takes one parameter of `find`. -/
def findParameter (host : Host σ) (parameter : Parameter) : Handling σ Unit := do
  if parameter.label = "path" then
    let note ← Handling.ask host .lastSelectedPath
    let revealed ← Handling.ask host (.reveal (Path.beside note parameter.value))
    if !revealed then
      throw (.fileRevealFailed parameter.value)
  else
    throw (.unrecognizedParameter find.name parameter.label)

/-- The procedure of `find`. -/
def findProcedure (host : Host σ) : Procedure σ where
  start := pure (.ok {})
  parameter := findParameter host
  finish _ := pure none

/-- The procedure of `prefs`. -/
def prefsProcedure (host : Host σ) : Procedure σ where
  start := pure (.ok {})
  parameter parameter := throw (.unrecognizedParameter prefs.name parameter.label)
  finish _ := do
    Dialogue.ask host .showPreferences
    pure none

end Verb

end CommandUrl

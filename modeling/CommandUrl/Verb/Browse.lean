import CommandUrl.Verb.Open

/-!
# Browsing collections

Two verbs that move about in a collection. The verb `expand` shows the
navigation of a collection with a tag unfolded. The verb `help` does the
opening itself: it opens the knowledge base before the first parameter and
shows notes in it, and does nothing where the knowledge base will not open.
-/

namespace CommandUrl.Verb

variable {σ : Type}

/-- A tag without the sign in front of it; only one is taken away. -/
def bareTag (value : String) : String :=
  match value.toList with
  | '#' :: tag => String.ofList tag
  | _ => value

/-- Takes one parameter of `expand`. -/
def expandParameter (host : Host σ) (parameter : Parameter) : Handling σ Unit := do
  match parameter.locator? with
  | some locator =>
    let _ ← Handling.establish host locator
  | none =>
    if parameter.label = "tag" then
      let window ← Handling.requireCollection parameter.label
      Handling.ask host (.showNavigation window)
      Handling.ask host (.expandTag window (bareTag parameter.value))
    else
      throw (.unrecognizedParameter expand.name parameter.label)

/-- The procedure of `expand`. -/
def expandProcedure (host : Host σ) : Procedure σ where
  start := pure (.ok {})
  parameter := expandParameter host
  finish _ := pure none

/-- Takes one parameter of `help`. -/
def helpParameter (host : Host σ) (parameter : Parameter) : Handling σ Unit := do
  if parameter.label = "id" then
    let window ← Handling.requireCollection parameter.label
    let found ← Handling.ask host (.noteForId window parameter.value)
    Handling.focusFound host window found (noNoteWithId parameter.value)
  else
    throw (.unrecognizedParameter help.name parameter.label)

/-- The procedure of `help`. -/
def helpProcedure (host : Host σ) : Procedure σ where
  start := do
    match ← Dialogue.ask host .openKnowledgeBase with
    | some window => pure (.ok { collection := some window })
    | none => pure (.error (.collectionNotFound "Notenik Knowledge Base could not be opened"))
  parameter := helpParameter host
  finish _ := pure none

end CommandUrl.Verb

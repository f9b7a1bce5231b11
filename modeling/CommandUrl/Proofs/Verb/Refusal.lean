import CommandUrl.Interpreter
import CommandUrl.Proofs.Host.Alerts
import CommandUrl.Proofs.Verb.Handling

/-!
# Refusals

A parameter that its verb does not take, or does not take yet, is refused. A
refusal comes before anything is asked of the host and before the context is
touched, in every verb: what can be judged from the parameter and the context is
judged first. This is the lemma about single parameters from which it follows
that a refused parameter might as well not have been there.

The same pass through the verbs shows that none of them alerts the user by
itself, and that none of them fails in a way that only a malformed command may.
-/

namespace CommandUrl

/-- Failures which say that a parameter is not one of the verb's, has a value that the verb does not
know, comes before its collection, or writes a field that the collection does not declare. -/
def Failure.isRefusal : Failure → Bool
  | unrecognizedParameter .. | invalidParameterValue .. | missingContext _
  | fieldSetFailed _ => true
  | _ => false

/-- A failure of a handling that was begun with `begun` after `start`: it does not say that the
command is malformed, and a refusal finds everything as it was. -/
def Prompt (start : List Exchange) (begun : Context) (history : List Exchange) (failure : Failure)
    (context : Context) : Prop :=
  failure.kind ≠ .structural ∧ (failure.isRefusal → history = start ∧ context = begun)

namespace Prompt

variable {start history : List Exchange} {begun context : Context} {failure : Failure}

theorem refusal (unfit : failure.kind ≠ .structural) : Prompt start begun start failure begun :=
  ⟨unfit, fun _ => ⟨rfl, rfl⟩⟩

theorem late (unfit : failure.kind ≠ .structural) (accepted : failure.isRefusal = false) :
    Prompt start begun history failure context :=
  ⟨unfit, by simp [accepted]⟩

end Prompt

namespace Verb

variable {σ : Type} {host : Host σ} {start history : List Exchange} {begun context : Context}

/-- The handling asks for no alert and fails promptly. -/
def Refuses (host : Host σ) (start : List Exchange) (begun : Context) (history : List Exchange)
    (context : Context) (handling : Handling σ Unit) : Prop :=
  Handling.Follows host Discreet (Prompt start begun) (fun _ _ _ => True) history context handling

theorem discreet_of_isLookup (history : List Exchange) (request : Request)
    (lookup : request.isLookup) : Discreet history request := by
  cases request <;> first | rfl | simp [Request.isLookup] at lookup

theorem establish_refuses {locator : Locator} {next : Window → Handling σ Unit}
    (rest : ∀ history window context, Refuses host start begun history context (next window)) :
    Refuses host start begun history context (Handling.establish host locator >>= next) :=
  .establish_bind discreet_of_isLookup (fun _ _ => rfl)
    (fun _ _ _ => .late nofun rfl)
    (fun _ _ _ _ => .late nofun rfl)
    (fun _ _ window _ => rest _ window _)

theorem focusFound_refuses {window : Window} {found : Option NoteRef} {missing : String} :
    Refuses host start begun history context (Handling.focusFound host window found missing) :=
  .focusFound (fun _ => rfl) (fun _ => .late nofun rfl) fun _ _ _ => trivial

theorem openTimestamp_refuses {window : Window} {timestamp : String} :
    Refuses host start begun history context (openTimestamp host window timestamp) := by
  refine .ask_bind rfl fun schema => ?_
  dsimp only
  split
  · exact .throw_bind (.late nofun rfl)
  · exact .ask_bind rfl fun found => focusFound_refuses

theorem openNotePath_refuses {path : String} :
    Refuses host start begun history context (openNotePath host path) := by
  refine .files_bind fun tree => ?_
  dsimp only
  split
  · exact .throw_bind (.late nofun rfl)
  · split
    · exact .throw (.late nofun rfl)
    · exact establish_refuses fun _ _ _ => .ask_bind rfl fun found => focusFound_refuses

theorem openAttachment_refuses {window : Window} {title : String} :
    Refuses host start begun history context (openAttachment host window title) := by
  refine .ask_bind rfl fun selected => ?_
  dsimp only
  split
  · exact .throw_bind (.late nofun rfl)
  · refine .ask_bind rfl fun opened => ?_
    split
    · exact .throw (.late nofun rfl)
    · exact .pure trivial

theorem requireCollection_refuses {label : String} {next : Window → Handling σ Unit}
    (rest : ∀ window, Refuses host history context history context (next window)) :
    Refuses host history context history context (Handling.requireCollection label >>= next) :=
  .requireCollection_bind (fun _ => .refusal nofun) fun window _ => rest window

theorem openParameter_refuses (parameter : Parameter) :
    Refuses host history context history context (openParameter host parameter) := by
  simp only [openParameter]
  split
  · exact establish_refuses fun _ _ _ => .pure trivial
  · split
    · exact requireCollection_refuses fun window => .ask_bind rfl fun found => focusFound_refuses
    · exact requireCollection_refuses fun window => openTimestamp_refuses
    · exact openNotePath_refuses
    · exact requireCollection_refuses fun window => openAttachment_refuses
    · refine requireCollection_refuses fun window => ?_
      split
      · exact .ask (.selectRandom window false) rfl fun _ => trivial
      · exact .ask (.selectRandom window true) rfl fun _ => trivial
      · exact .ask (.selectNote window) rfl fun _ => trivial
      · exact .throw (.refusal nofun)
    · split
      · exact requireCollection_refuses fun window =>
          .ask (.ensureQuotesMode window) rfl fun _ => trivial
      · exact .throw (.refusal nofun)
    · exact .throw (.refusal nofun)

theorem expandParameter_refuses (parameter : Parameter) :
    Refuses host history context history context (expandParameter host parameter) := by
  simp only [expandParameter]
  split
  · exact establish_refuses fun _ _ _ => .pure trivial
  · split
    · exact requireCollection_refuses fun window =>
        .ask_bind rfl fun _ => .ask (.expandTag window _) rfl fun _ => trivial
    · exact .throw (.refusal nofun)

theorem helpParameter_refuses (parameter : Parameter) :
    Refuses host history context history context (helpParameter host parameter) := by
  simp only [helpParameter]
  split
  · exact requireCollection_refuses fun window => .ask_bind rfl fun found => focusFound_refuses
  · exact .throw (.refusal nofun)

theorem beginDraft_refuses {locator : Locator} :
    Refuses host start begun history context (beginDraft host locator) := by
  refine establish_refuses fun _ window _ => .ask_bind rfl fun schema => .modify_bind ?_
  split
  · exact .throw (.late nofun rfl)
  · exact .pure trivial

theorem writeDraft_refuses (parameter : Parameter) :
    Refuses host history context history context (writeDraft parameter) := by
  refine .get_bind ?_
  split
  · exact .throw (.refusal nofun)
  · split
    · exact .modify trivial
    · exact .throw (.refusal nofun)

theorem addParameter_refuses (parameter : Parameter) :
    Refuses host history context history context (addParameter host parameter) := by
  simp only [addParameter]
  split
  · exact beginDraft_refuses
  · exact writeDraft_refuses parameter

theorem chooseScript_refuses {path : String} :
    Refuses host start begun history context (chooseScript host path) := by
  simp only [chooseScript]
  split
  · exact .throw (.late nofun rfl)
  · refine .ask_bind rfl fun kind => ?_
    split
    · exact .modify trivial
    · exact .throw (.late nofun rfl)

theorem runParameter_refuses (parameter : Parameter) :
    Refuses host history context history context (runParameter host parameter) := by
  simp only [runParameter]
  split
  · split
    · exact .modify trivial
    · exact .modify trivial
    · exact .throw (.refusal nofun)
  · exact chooseScript_refuses
  · exact .throw (.refusal nofun)

theorem findParameter_refuses (parameter : Parameter) :
    Refuses host history context history context (findParameter host parameter) := by
  simp only [findParameter]
  split
  · refine .ask_bind rfl fun note => .ask_bind rfl fun revealed => ?_
    split
    · exact .throw (.late nofun rfl)
    · exact .pure trivial
  · exact .throw (.refusal nofun)

/-- Every verb refuses a parameter before it does anything with it. -/
theorem parameter_refuses (verb : Verb) (parameter : Parameter) :
    Refuses host history context history context ((verb.procedure host).parameter parameter) := by
  cases verb with
  | add => exact addParameter_refuses parameter
  | help => exact helpParameter_refuses parameter
  | expand => exact expandParameter_refuses parameter
  | openNote => exact openParameter_refuses parameter
  | prefs => exact .throw (.refusal nofun)
  | run => exact runParameter_refuses parameter
  | find => exact findParameter_refuses parameter

variable {verb : Verb} {parameter : Parameter} {left : Context} {failure : Failure}
  {conversation later : Conversation σ}

theorem kind_of_parameter_error
    (taken : ((verb.procedure host).parameter parameter).run.run context conversation =
      ((.error failure, left), later)) : failure.kind ≠ .structural := by
  have follows : Refuses host [] context [] context ((verb.procedure host).parameter parameter) :=
    parameter_refuses verb parameter
  rcases Handling.Follows.said_of_error follows taken with ⟨said, _, unfit, _⟩
  exact unfit

/-- A parameter that is refused leaves the context and the host as they were. -/
theorem untouched_of_refusal
    (taken : ((verb.procedure host).parameter parameter).run.run context conversation =
      ((.error failure, left), later))
    (refusal : failure.isRefusal) :
    left = context ∧ later.exchanges = conversation.exchanges ∧
      later.state = conversation.state := by
  have follows : Refuses host [] context [] context ((verb.procedure host).parameter parameter) :=
    parameter_refuses verb parameter
  rcases Handling.Follows.said_of_error follows taken with ⟨said, talk, _, prompt⟩
  rcases prompt refusal with ⟨silent, same⟩
  have silent : said = [] := silent
  subst silent
  exact ⟨same, by simpa using talk.exchanges, talk.answered.eq_of_silent⟩

theorem start_follows (history : List Exchange) (verb : Verb) :
    Dialogue.Follows host Discreet
      (fun _ begun => ∀ failure, begun = .error failure → failure.kind ≠ .structural) history
      (verb.procedure host).start := by
  cases verb with
  | help =>
      refine .ask rfl fun answer => ?_
      cases answer with
      | some window => exact .pure (by simp)
      | none => exact .pure (by rintro failure ⟨⟩; nofun)
  | _ => exact .pure (by simp)

theorem finish_follows (history : List Exchange) (verb : Verb) (context : Context) :
    Dialogue.Follows host Discreet
      (fun _ entry => ∀ failure, entry = some (.failure failure) → failure.kind ≠ .structural)
      history ((verb.procedure host).finish context) := by
  cases verb with
  | add =>
      simp only [procedure, addProcedure, commitDraft]
      split
      · refine .ask rfl fun answer => ?_
        cases answer with
        | some note => exact .pure (by simp)
        | none => exact .pure (by rintro failure ⟨⟩; nofun)
      · exact .pure (by simp)
  | run =>
      simp only [procedure, runProcedure, launchScript]
      split
      · exact .ask rfl fun _ => .pure (by simp)
      · exact .pure (by simp)
  | prefs => exact .ask rfl fun _ => .pure (by simp)
  | _ => exact .pure (by simp)

end Verb

end CommandUrl

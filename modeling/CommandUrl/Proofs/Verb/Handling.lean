import CommandUrl.Proofs.Locator.Lookups
import CommandUrl.Verb.Procedure

/-!
# What taking a parameter says

A handling is a dialogue that carries a context along and may break off. Its
protocol has two kinds of ends: it comes to a value or it fails, and either way
it leaves a context. The rules below carry a protocol through a handling step by
step, one rule for each step that a handling is written with, so that a proof
about a verb has the shape of the verb.
-/

namespace CommandUrl.Handling

variable {σ α β : Type}

/-- The end of a handling is as `failed` or as `after` says, by whether it broke off. -/
def Ended (failed : List Exchange → Failure → Context → Prop)
    (after : List Exchange → α → Context → Prop) (history : List Exchange) :
    Except Failure α × Context → Prop
  | (.ok value, context) => after history value context
  | (.error failure, context) => failed history failure context

/-- Begun with `context` after `history`, the handling asks only what `asks` allows and ends only as
`failed` or `after` says. -/
def Follows (host : Host σ) (asks : List Exchange → Request → Prop)
    (failed : List Exchange → Failure → Context → Prop) (after : List Exchange → α → Context → Prop)
    (history : List Exchange) (context : Context) (handling : Handling σ α) : Prop :=
  Dialogue.Follows host asks (Ended failed after) history (handling.run.run context)

theorem run_bind (handling : Handling σ α) (next : α → Handling σ β) (context : Context) :
    (handling >>= next).run.run context = handling.run.run context >>= fun
      | (.ok value, context) => (next value).run.run context
      | (.error failure, context) => pure (.error failure, context) := by
  rw [ExceptT.run_bind, StateT.run_bind]
  congr
  funext outcome
  rcases outcome with ⟨failure | value, context⟩ <;> rfl

theorem run_lift (dialogue : Dialogue σ α) (context : Context) :
    (ExceptT.lift (StateT.lift dialogue) : Handling σ α).run.run context =
      dialogue >>= fun value => pure (.ok value, context) := by
  simp

namespace Follows

variable {host : Host σ} {asks : List Exchange → Request → Prop}
  {failed : List Exchange → Failure → Context → Prop} {after : List Exchange → α → Context → Prop}
  {history : List Exchange} {context : Context}

theorem lift_bind {dialogue : Dialogue σ β} {next : β → Handling σ α}
    (first : Dialogue.Follows host asks
      (fun later value => Follows host asks failed after later context (next value))
      history dialogue) :
    Follows host asks failed after history context
      (ExceptT.lift (StateT.lift dialogue) >>= next) := by
  simp only [Follows, run_bind, run_lift, bind_assoc, pure_bind]
  exact Dialogue.Follows.bind first fun _ _ ended => ended

theorem ask_bind {request : Request} {next : request.Answer → Handling σ α}
    (asked : asks history request)
    (rest : ∀ answer,
      Follows host asks failed after (history ++ [⟨request, answer⟩]) context (next answer)) :
    Follows host asks failed after history context (Handling.ask host request >>= next) := by
  simp only [Follows, run_bind, Handling.ask, run_lift, bind_assoc, pure_bind]
  exact .ask asked rest

theorem files_bind {next : FileTree → Handling σ α}
    (rest : ∀ tree, Follows host asks failed after history context (next tree)) :
    Follows host asks failed after history context (Handling.files host >>= next) := by
  simp only [Follows, run_bind, Handling.files, run_lift, bind_assoc, pure_bind]
  exact .files rest

theorem throw_bind {failure : Failure} {next : β → Handling σ α}
    (ended : failed history failure context) :
    Follows host asks failed after history context (throw failure >>= next) :=
  Dialogue.Follows.pure ended

theorem get_bind {next : Context → Handling σ α}
    (rest : Follows host asks failed after history context (next context)) :
    Follows host asks failed after history context (get >>= next) :=
  rest

theorem modify_bind {change : Context → Context} {next : Unit → Handling σ α}
    (rest : Follows host asks failed after history (change context) (next ())) :
    Follows host asks failed after history context (modify change >>= next) :=
  rest

theorem pure {value : α} (ended : after history value context) :
    Follows host asks failed after history context (pure value) :=
  Dialogue.Follows.pure ended

theorem throw {failure : Failure} (ended : failed history failure context) :
    Follows host asks failed after history context (throw failure) :=
  Dialogue.Follows.pure ended

theorem modify {change : Context → Context} {after : List Exchange → Unit → Context → Prop}
    (ended : after history () (change context)) :
    Follows host asks failed after history context (modify change) :=
  Dialogue.Follows.pure ended

theorem ask (request : Request) {after : List Exchange → request.Answer → Context → Prop}
    (asked : asks history request)
    (ended : ∀ answer, after (history ++ [⟨request, answer⟩]) answer context) :
    Follows host asks failed after history context (Handling.ask host request) := by
  rw [← bind_pure (Handling.ask host request)]
  exact ask_bind asked fun answer => pure (ended answer)

theorem log {event : Event} {after : List Exchange → Unit → Context → Prop}
    (quiet : event.level = .debug) (ended : after history () context) :
    Follows host asks failed after history context (Handling.log event) := by
  simp only [Follows, Handling.log, run_lift]
  exact .log quiet (.pure ended)

/-- A parameter that needs a collection has the one of the context, or fails. -/
theorem requireCollection_bind {label : String} {next : Window → Handling σ α}
    (missing : context.collection = none → failed history (.missingContext label) context)
    (rest : ∀ window, context.collection = some window →
      Follows host asks failed after history context (next window)) :
    Follows host asks failed after history context (requireCollection label >>= next) := by
  simp only [requireCollection, bind_assoc]
  refine get_bind ?_
  cases held : context.collection with
  | none => exact throw_bind (missing held)
  | some window =>
      rw [pure_bind]
      exact rest window held

/-- A parameter that opens a collection seeks its link, opens it and makes it the collection of the
context; where it fails, the context is as it was. -/
theorem establish_bind_of_link {sought : List Exchange → Option Link → Prop} {locator : Locator}
    {next : Window → Handling σ α}
    (seeks : Dialogue.Follows host asks sought history (locator.link host))
    (opens : ∀ history link, asks history (.openWindow link))
    (unknown : ∀ said description, sought said none →
      failed said (.collectionNotFound description) context)
    (refused : ∀ said link description, sought said (some link) →
      failed (said ++ [⟨.openWindow link, none⟩]) (.collectionNotFound description) context)
    (rest : ∀ said link window, sought said (some link) →
      Follows host asks failed after (said ++ [⟨.openWindow link, some window⟩])
        { context with collection := some window } (next window)) :
    Follows host asks failed after history context (establish host locator >>= next) := by
  simp only [establish, bind_assoc]
  refine lift_bind (Locator.resolve_follows_of_link seeks opens ?_ ?_ ?_)
  · intro said description sought
    exact throw_bind (unknown said description sought)
  · intro said link description sought
    exact throw_bind (refused said link description sought)
  · intro said link window sought
    simp only [bind_assoc, pure_bind]
    exact modify_bind (rest said link window sought)

theorem establish_bind {locator : Locator} {next : Window → Handling σ α}
    (lookups : ∀ history request, request.isLookup → asks history request)
    (opens : ∀ history link, asks history (.openWindow link))
    (unknown : ∀ sought description, Lookups history sought →
      failed sought (.collectionNotFound description) context)
    (refused : ∀ sought link description, Lookups history sought →
      failed (sought ++ [⟨.openWindow link, none⟩]) (.collectionNotFound description) context)
    (rest : ∀ sought link window, Lookups history sought →
      Follows host asks failed after (sought ++ [⟨.openWindow link, some window⟩])
        { context with collection := some window } (next window)) :
    Follows host asks failed after history context (establish host locator >>= next) :=
  establish_bind_of_link (Locator.seeks_link lookups locator history) opens unknown refused rest

theorem focusFound {window : Window} {found : Option NoteRef} {missing : String}
    {after : List Exchange → Unit → Context → Prop}
    (asked : ∀ request, asks history (.focus window request))
    (missed : found = none → failed history (.noteNotFound missing) context)
    (ended : ∀ note answer, found = some note →
      after (history ++ [⟨.focus window { origin := .command, note }, answer⟩]) () context) :
    Follows host asks failed after history context
      (Handling.focusFound host window found missing) := by
  cases found with
  | none => exact throw (missed rfl)
  | some note =>
      refine ask_bind (asked _) fun answer => ?_
      split
      · exact log rfl (ended note answer rfl)
      · exact pure (ended note answer rfl)

variable {handling : Handling σ α} {conversation later : Conversation σ} {left : Context}

theorem said_of_error {failure : Failure}
    (follows : Follows host asks failed after history context handling)
    (ran : handling.run.run context conversation = ((.error failure, left), later)) :
    ∃ said, Dialogue.Said host asks history conversation later said ∧
      failed (history ++ said) failure left := by
  have said := Dialogue.Follows.said follows conversation
  rw [ran] at said
  exact said

theorem said_of_ok {value : α} (follows : Follows host asks failed after history context handling)
    (ran : handling.run.run context conversation = ((.ok value, left), later)) :
    ∃ said, Dialogue.Said host asks history conversation later said ∧
      after (history ++ said) value left := by
  have said := Dialogue.Follows.said follows conversation
  rw [ran] at said
  exact said

end Follows

end CommandUrl.Handling

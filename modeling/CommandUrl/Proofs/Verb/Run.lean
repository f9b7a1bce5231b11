import CommandUrl.Proofs.Verb.Handling

/-!
# Where a handling comes to

A protocol says what a handling may do, whatever it is answered. Here the answers are
known, and the question is to which end they lead. A run goes from step to step: one
that comes to a value leaves the rest to be run from where it stopped, and one that
fails is the end.
-/

namespace CommandUrl.Handling

variable {σ α β : Type} {host : Host σ} {context left : Context}
  {conversation later : Conversation σ} {failure : Failure} {window : Window}

theorem run_bind_of_ok {handling : Handling σ α} {value : α} (next : α → Handling σ β)
    (ran : handling.run.run context conversation = ((.ok value, left), later)) :
    (handling >>= next).run.run context conversation = (next value).run.run left later := by
  rw [run_bind]
  simp only [bind, StateT.bind, ran]

theorem run_bind_of_error {handling : Handling σ α} (next : α → Handling σ β)
    (ran : handling.run.run context conversation = ((.error failure, left), later)) :
    (handling >>= next).run.run context conversation = ((.error failure, left), later) := by
  rw [run_bind]
  simp only [bind, StateT.bind, ran]
  rfl

theorem run_lift_of_run {dialogue : Dialogue σ α} {value : α}
    (ran : dialogue conversation = (value, later)) :
    (ExceptT.lift (StateT.lift dialogue) : Handling σ α).run.run context conversation =
      ((.ok value, context), later) := by
  rw [run_lift]
  simp only [bind, StateT.bind, ran]
  rfl

theorem run_establish_of_ok {locator : Locator}
    (resolved : locator.resolve host conversation = (.ok window, later)) :
    (establish host locator).run.run context conversation =
      ((.ok window, { context with collection := some window }), later) := by
  rw [establish, run_bind_of_ok _ (run_lift_of_run resolved)]
  rfl

theorem run_establish_of_error {locator : Locator}
    (resolved : locator.resolve host conversation = (.error failure, later)) :
    (establish host locator).run.run context conversation = ((.error failure, context), later) := by
  rw [establish, run_bind_of_ok _ (run_lift_of_run resolved)]
  rfl

theorem run_requireCollection_of_some {label : String} (held : context.collection = some window) :
    (requireCollection label : Handling σ Window).run.run context conversation =
      ((.ok window, context), conversation) := by
  have got : (get : Handling σ Context).run.run context conversation =
      ((.ok context, context), conversation) := rfl
  rw [requireCollection, run_bind_of_ok _ got, held]
  rfl

theorem run_requireCollection_of_none {label : String} (held : context.collection = none) :
    (requireCollection label : Handling σ Window).run.run context conversation =
      ((.error (.missingContext label), context), conversation) := by
  have got : (get : Handling σ Context).run.run context conversation =
      ((.ok context, context), conversation) := rfl
  rw [requireCollection, run_bind_of_ok _ got, held]
  rfl

theorem run_files_bind (host : Host σ) (next : FileTree → Handling σ α) (context : Context)
    (conversation : Conversation σ) :
    (Handling.files host >>= next).run.run context conversation =
      (next (host.files conversation.state)).run.run context conversation :=
  rfl

/-- Focusing a note succeeds, and the request for it is all that is said. -/
theorem run_focus (host : Host σ) (window : Window) (note : NoteRef) (context : Context)
    (conversation : Conversation σ) :
    ∃ final, (focus host window note).run.run context conversation = ((.ok (), context), final) ∧
      final.exchanges = (Dialogue.ask host (.focus window { origin := .command, note })
        conversation).2.exchanges := by
  rcases asked : Dialogue.ask host (.focus window { origin := .command, note }) conversation with
    ⟨focused, later⟩
  have told : (ask host (.focus window { origin := .command, note })).run.run context conversation =
      ((.ok focused, context), later) := run_lift_of_run asked
  have ran := run_bind_of_ok
    (fun focused => if !focused then log (.focusDeclined window.id note.id) else pure ()) told
  cases focused with
  | false => exact ⟨_, ran, rfl⟩
  | true => exact ⟨_, ran, rfl⟩

end CommandUrl.Handling

import CommandUrl.Proofs.Verb.Handling
import CommandUrl.Proofs.Verb.Standing

/-!
# How a conversation goes on

A verb that is carried out adds to the conversation with its host, and the host
gets from state to state by its answers. If nothing but requests of some kind
are made before the first parameter, at each parameter and after the last, and
alerts are of that kind, then nothing else is said in the whole run. A kind is a
property of requests alone, so this settles what a verb never asks; what it asks
in which order is a matter of protocols.
-/

namespace CommandUrl

variable {σ : Type}

/-- By `said` the conversation has got from one point to another, and all of it is of a kind. -/
structure Conversation.GoesOn (host : Host σ) (kind : Request → Prop)
    (before after : Conversation σ) (said : List Exchange) : Prop where
  exchanges : after.exchanges = before.exchanges ++ said
  answered : host.Answers before.state said after.state
  ofKind : ∀ exchange ∈ said, kind exchange.request

namespace Conversation.GoesOn

variable {host : Host σ} {kind : Request → Prop} {before middle after : Conversation σ}
  {said more : List Exchange}

theorem refl (conversation : Conversation σ) :
    GoesOn host kind conversation conversation [] where
  exchanges := by simp
  answered := .nil
  ofKind := by simp

theorem trans (first : GoesOn host kind before middle said)
    (rest : GoesOn host kind middle after more) : GoesOn host kind before after (said ++ more) where
  exchanges := by simp [rest.exchanges, first.exchanges]
  answered := first.answered.append rest.answered
  ofKind := by
    intro exchange mem
    rcases List.mem_append.mp mem with early | late
    · exact first.ofKind exchange early
    · exact rest.ofKind exchange late

theorem ofSaid {history : List Exchange}
    (talk : Dialogue.Said host (fun _ => kind) history before after said) :
    GoesOn host kind before after said where
  exchanges := talk.exchanges
  answered := talk.answered
  ofKind := by
    intro exchange mem
    rcases List.append_of_mem mem with ⟨earlier, later, split⟩
    exact talk.kept earlier exchange later split

theorem mono {allowed : Request → Prop} (goesOn : GoesOn host kind before after said)
    (weaker : ∀ request, kind request → allowed request) :
    GoesOn host allowed before after said where
  exchanges := goesOn.exchanges
  answered := goesOn.answered
  ofKind := by
    intro exchange mem
    apply weaker
    exact goesOn.ofKind exchange mem

theorem fail (alerts : ∀ failure, kind (.alert failure)) (failure : Failure) (report : Report)
    (conversation : Conversation σ) :
    GoesOn host kind conversation (Report.fail host failure report conversation).2
      (report.alarm failure) where
  exchanges := Report.fail_exchanges host failure report conversation
  answered := by
    rw [Report.fail_state]
    unfold Report.alarm
    split
    · exact .cons .nil
    · exact .nil
  ofKind := by
    intro exchange mem
    simp only [Report.alarm] at mem
    split at mem
    · simp only [List.mem_singleton] at mem
      subst mem
      exact alerts failure
    · simp at mem

end Conversation.GoesOn

namespace Verb

variable {host : Host σ} {verb : Verb} {kind : Request → Prop}

/-- The handling of every parameter asks for nothing but requests of a kind. -/
def Confines (host : Host σ) (kind : Request → Prop) (handling : Handling σ Unit) : Prop :=
  ∀ history context, Handling.Follows host (fun _ => kind) (fun _ _ _ => True)
    (fun _ _ _ => True) history context handling

theorem take_goesOn (alerts : ∀ failure, kind (.alert failure)) {parameter : Parameter}
    (confined : Confines host kind ((verb.procedure host).parameter parameter))
    (standing : Standing σ) :
    ∃ said, Conversation.GoesOn host kind standing.conversation
      (verb.take host standing parameter).conversation said := by
  rcases taken : ((verb.procedure host).parameter parameter).run.run standing.context
    standing.conversation with ⟨⟨failure | _, context⟩, conversation⟩
  · rcases (confined [] standing.context).said_of_error taken with ⟨said, talk, _⟩
    rw [take_of_error host verb taken]
    exact ⟨_, (Conversation.GoesOn.ofSaid talk).trans (.fail alerts failure _ _)⟩
  · rcases (confined [] standing.context).said_of_ok taken with ⟨said, talk, _⟩
    rw [take_of_ok host verb taken]
    exact ⟨said, .ofSaid talk⟩

theorem takes_goOn (alerts : ∀ failure, kind (.alert failure))
    (confined : ∀ parameter, Confines host kind ((verb.procedure host).parameter parameter))
    (standing : Standing σ) (parameters : List Parameter) :
    ∃ said, Conversation.GoesOn host kind standing.conversation
      (parameters.foldl (verb.take host) standing).conversation said := by
  induction parameters generalizing standing with
  | nil => exact ⟨[], .refl _⟩
  | cons parameter parameters ih =>
      rcases take_goesOn alerts (confined parameter) standing with ⟨said, first⟩
      rcases ih (verb.take host standing parameter) with ⟨more, rest⟩
      exact ⟨said ++ more, first.trans rest⟩

theorem conclude_goesOn (alerts : ∀ failure, kind (.alert failure)) (entry : Option ReportEntry)
    (report : Report) (conversation : Conversation σ) :
    ∃ said, Conversation.GoesOn host kind conversation
      (Procedure.conclude host entry report conversation).2 said := by
  rcases entry with _ | ⟨message | failure⟩
  · exact ⟨[], .refl conversation⟩
  · exact ⟨[], ⟨(List.append_nil _).symm, .nil, by simp⟩⟩
  · exact ⟨_, .fail alerts failure report conversation⟩

/-- What a verb never asks at its start, at a parameter or at its end, it never asks. -/
theorem carryOut_goesOn (alerts : ∀ failure, kind (.alert failure))
    (started : Dialogue.Follows host (fun _ => kind) (fun _ _ => True) []
      (verb.procedure host).start)
    (confined : ∀ parameter, Confines host kind ((verb.procedure host).parameter parameter))
    (finished : ∀ context, Dialogue.Follows host (fun _ => kind) (fun _ _ => True) []
      ((verb.procedure host).finish context))
    (parameters : List Parameter) (report : Report) (conversation : Conversation σ) :
    ∃ said, Conversation.GoesOn host kind conversation
      (verb.carryOut host parameters report conversation).2 said := by
  rcases started.said conversation with ⟨opening, talk, _⟩
  have begun := Conversation.GoesOn.ofSaid talk
  cases stands : verb.standing host parameters report conversation with
  | none =>
      rcases carryOut_of_nowhere stands with ⟨failure, later, start, carried⟩
      rw [start] at begun
      rw [carried]
      exact ⟨_, begun.trans (.fail alerts failure _ later)⟩
  | some last =>
      rcases standing_cases stands with ⟨context, later, start, rfl⟩
      rw [start] at begun
      rw [carryOut_of_standing stands]
      let first : Standing σ :=
        { context, report := { report with verb := verb.name }, conversation := later }
      rcases takes_goOn alerts confined first parameters with ⟨middle, taken⟩
      rcases (finished _).said _ with ⟨closing, talk, _⟩
      rcases conclude_goesOn alerts _ _ _ with ⟨final, concluded⟩
      exact ⟨_, ((begun.trans taken).trans (.ofSaid talk)).trans concluded⟩

end Verb

end CommandUrl

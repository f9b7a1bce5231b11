import CommandUrl.Proofs.Verb.Refusal
import CommandUrl.Proofs.Verb.Standing

/-!
# The turns of a verb

A verb gives each of its parameters a turn. The record of a turn says what was
asked of the host in it and how that was answered, what was reported, and which
context was left for the next. A run is the sequence of its turns, since what is
asked and reported up to some point is what was asked and reported in the turns
before it: nothing is ever taken back. Alerts are not in the record, because
they follow from what was reported.

What holds of every turn is shown by a protocol of the handling, which
`Verb.turn_cases` turns into a fact about the record.
-/

namespace CommandUrl

variable {σ : Type}

/-- What one parameter came to. -/
structure Turn where
  parameter : Parameter
  /-- What was said to the host, but for alerts. -/
  said : List Exchange
  reported : List ReportEntry
  /-- The context after the turn. -/
  left : Context

namespace Verb

variable (host : Host σ) (verb : Verb)

/-- The turn of a parameter: what has been added to the conversation and to the report by it. -/
def turn (standing : Standing σ) (parameter : Parameter) : Turn :=
  let next := verb.take host standing parameter
  { parameter
    said := next.conversation.business.drop standing.conversation.business.length
    reported := next.report.entries.drop standing.report.entries.length
    left := next.context }

/-- The turns of some parameters in order. -/
def turns (standing : Standing σ) : List Parameter → List Turn
  | [] => []
  | parameter :: parameters =>
    verb.turn host standing parameter :: turns (verb.take host standing parameter) parameters

theorem map_parameter_turns (standing : Standing σ) (parameters : List Parameter) :
    (verb.turns host standing parameters).map Turn.parameter = parameters := by
  induction parameters generalizing standing with
  | nil => rfl
  | cons parameter parameters ih =>
      rw [turns, List.map_cons, ih]
      rfl

/-- What holds of the turn of any parameter wherever the verb stands holds of all turns. -/
theorem forall_turns {property : Turn → Prop}
    (each : ∀ standing parameter, property (verb.turn host standing parameter))
    (standing : Standing σ) (parameters : List Parameter) :
    ∀ turn ∈ verb.turns host standing parameters, property turn := by
  induction parameters generalizing standing with
  | nil => simp [turns]
  | cons parameter parameters ih =>
      intro turn mem
      rcases List.mem_cons.mp mem with rfl | later
      · exact each standing parameter
      · exact ih _ turn later

variable {host verb} {asks : List Exchange → Request → Prop}
  {failed : List Exchange → Failure → Context → Prop}
  {after : List Exchange → Unit → Context → Prop} {history : List Exchange}
  {standing : Standing σ} {parameter : Parameter}

theorem business_of_discreet {before after : Conversation σ} {said : List Exchange}
    (grown : after.exchanges = before.exchanges ++ said)
    (discreet : Dialogue.Keeps Discreet [] said) : after.business = before.business ++ said := by
  have kept : said.filter (fun exchange => !exchange.request.isAlert) = said := by
    rw [List.filter_eq_self]
    intro exchange mem
    rcases List.append_of_mem mem with ⟨earlier, later, split⟩
    have quiet : exchange.request.isAlert = false := discreet earlier exchange later split
    simp [quiet]
  rw [Conversation.business, grown, List.filter_append, kept]
  rfl

theorem conclude_business (entry : Option ReportEntry) (report : Report)
    (conversation : Conversation σ) :
    (Procedure.conclude host entry report conversation).2.business = conversation.business := by
  rcases entry with _ | ⟨message | failure⟩
  · rfl
  · rfl
  · exact Report.fail_business host failure report conversation

theorem conclude_entries (entry : Option ReportEntry) (report : Report)
    (conversation : Conversation σ) :
    (Procedure.conclude host entry report conversation).1.2.entries =
      report.entries ++ entry.toList := by
  rcases entry with _ | ⟨message | failure⟩
  · exact (List.append_nil _).symm
  · rfl
  · simp only [Procedure.conclude, Report.fail_report, Report.add_entries, Option.toList]

/-- What a handling says is business, since no verb alerts the user by itself. -/
theorem parameter_business {outcome : Except Failure Unit} {context left : Context}
    {conversation later : Conversation σ} {said : List Exchange}
    (taken : ((verb.procedure host).parameter parameter).run.run context conversation =
      ((outcome, left), later))
    (grown : later.exchanges = conversation.exchanges ++ said) :
    later.business = conversation.business ++ said := by
  have discreet : Refuses host [] context [] context
      ((verb.procedure host).parameter parameter) := parameter_refuses verb parameter
  have talk : ∃ other, Dialogue.Said host Discreet [] conversation later other := by
    cases outcome with
    | ok value =>
        rcases Handling.Follows.said_of_ok discreet taken with ⟨other, talk, _⟩
        exact ⟨other, talk⟩
    | error failure =>
        rcases Handling.Follows.said_of_error discreet taken with ⟨other, talk, _⟩
        exact ⟨other, talk⟩
  rcases talk with ⟨other, talk⟩
  have same : other = said := List.append_cancel_left (talk.exchanges.symm.trans grown)
  subst same
  exact business_of_discreet talk.exchanges talk.kept

theorem turn_of_error {failure : Failure} {context : Context} {conversation : Conversation σ}
    {said : List Exchange}
    (taken : ((verb.procedure host).parameter parameter).run.run standing.context
      standing.conversation = ((.error failure, context), conversation))
    (grown : conversation.exchanges = standing.conversation.exchanges ++ said) :
    verb.turn host standing parameter = ⟨parameter, said, [.failure failure], context⟩ := by
  -- the alert that follows the failure is not part of what was said
  simp only [turn, take_of_error host verb taken, Report.fail_business,
    parameter_business taken grown,
    Report.add_entries, List.drop_left]

theorem turn_of_ok {context : Context} {conversation : Conversation σ} {said : List Exchange}
    (taken : ((verb.procedure host).parameter parameter).run.run standing.context
      standing.conversation = ((.ok (), context), conversation))
    (grown : conversation.exchanges = standing.conversation.exchanges ++ said) :
    verb.turn host standing parameter = ⟨parameter, said, [], context⟩ := by
  simp only [turn, take_of_ok host verb taken, parameter_business taken grown, List.drop_left,
    List.drop_length]

/-- A turn under a protocol of what its handling comes to where the verb stands: the host has given
the answers, and the turn reports nothing and ends as the protocol says, or it reports one failure
and ends as the protocol says of that failure. -/
theorem turn_cases_of_run {handling : Handling σ Unit}
    (same : ((verb.procedure host).parameter parameter).run.run standing.context
      standing.conversation = handling.run.run standing.context standing.conversation)
    (follows : Handling.Follows host asks failed after history standing.context handling) :
    let turn := verb.turn host standing parameter
    (∃ final, host.Answers standing.conversation.state turn.said final) ∧
      Dialogue.Keeps asks history turn.said ∧
      (turn.reported = [] ∧ after (history ++ turn.said) () turn.left ∨
        ∃ failure, turn.reported = [.failure failure] ∧
          failed (history ++ turn.said) failure turn.left) := by
  intro turn
  rcases taken : handling.run.run standing.context standing.conversation with
    ⟨⟨failure | _, context⟩, conversation⟩
  · rcases follows.said_of_error taken with ⟨said, talk, ended⟩
    have record : turn = _ := turn_of_error (same.trans taken) talk.exchanges
    rw [record]
    exact ⟨⟨_, talk.answered⟩, talk.kept, Or.inr ⟨failure, rfl, ended⟩⟩
  · rcases follows.said_of_ok taken with ⟨said, talk, ended⟩
    have record : turn = _ := turn_of_ok (same.trans taken) talk.exchanges
    rw [record]
    exact ⟨⟨_, talk.answered⟩, talk.kept, Or.inl ⟨rfl, ended⟩⟩

theorem turn_cases
    (follows : Handling.Follows host asks failed after history standing.context
      ((verb.procedure host).parameter parameter)) :
    let turn := verb.turn host standing parameter
    Dialogue.Keeps asks history turn.said ∧
      (turn.reported = [] ∧ after (history ++ turn.said) () turn.left ∨
        ∃ failure, turn.reported = [.failure failure] ∧
          failed (history ++ turn.said) failure turn.left) := by
  rcases turn_cases_of_run rfl follows with ⟨_, cases⟩
  exact cases

/-- Taking a parameter adds its turn to what was said and reported before. -/
theorem take_adds (host : Host σ) (verb : Verb) (standing : Standing σ) (parameter : Parameter) :
    let turn := verb.turn host standing parameter
    let next := verb.take host standing parameter
    next.conversation.business = standing.conversation.business ++ turn.said ∧
      next.report.entries = standing.report.entries ++ turn.reported := by
  intro turn next
  have discreet : Refuses host [] standing.context [] standing.context
      ((verb.procedure host).parameter parameter) := parameter_refuses verb parameter
  rcases taken : ((verb.procedure host).parameter parameter).run.run standing.context
    standing.conversation with ⟨⟨failure | _, context⟩, conversation⟩
  · rcases Handling.Follows.said_of_error discreet taken with ⟨said, talk, _⟩
    have record : turn = _ := turn_of_error taken talk.exchanges
    have reached : next = _ := take_of_error host verb taken
    rw [record, reached]
    exact ⟨(Report.fail_business _ _ _ _).trans (parameter_business taken talk.exchanges), rfl⟩
  · rcases Handling.Follows.said_of_ok discreet taken with ⟨said, talk, _⟩
    have record : turn = _ := turn_of_ok taken talk.exchanges
    have reached : next = _ := take_of_ok host verb taken
    rw [record, reached]
    exact ⟨parameter_business taken talk.exchanges, (List.append_nil _).symm⟩

/-- A run says and reports what its turns say and report, in their order. -/
theorem takes_add (host : Host σ) (verb : Verb) (standing : Standing σ)
    (parameters : List Parameter) :
    let turns := verb.turns host standing parameters
    let last := parameters.foldl (verb.take host) standing
    last.conversation.business = standing.conversation.business ++ turns.flatMap Turn.said ∧
      last.report.entries = standing.report.entries ++ turns.flatMap Turn.reported := by
  intro turns last
  induction parameters generalizing standing with
  | nil => exact ⟨(List.append_nil _).symm, (List.append_nil _).symm⟩
  | cons parameter parameters ih =>
      rcases take_adds host verb standing parameter with ⟨said, reported⟩
      rcases ih (verb.take host standing parameter) with ⟨moreSaid, moreReported⟩
      constructor
      · refine moreSaid.trans ?_
        rw [said, List.append_assoc]
        rfl
      · refine moreReported.trans ?_
        rw [reported, List.append_assoc]
        rfl

end Verb

end CommandUrl

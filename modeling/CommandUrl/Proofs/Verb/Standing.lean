import CommandUrl.Interpreter
import CommandUrl.Proofs.Host.Alerts

/-!
# Where a verb stands

Between two parameters a verb stands somewhere: it has a context, a report, and
a conversation with its host. Taking a parameter leads from one standing to the
next, so a verb that is carried out is a machine whose states are standings, and
what holds wherever the verb stands is shown by an induction over the
parameters. `Verb.carryOut_of_standing` is the one place where the machine is
taken apart from what comes before and after the parameters.
-/

namespace CommandUrl

variable {σ : Type}

/-- Where a verb stands between two parameters. -/
structure Standing (σ : Type) where
  context : Context
  report : Report
  conversation : Conversation σ

namespace Report

/-- What is asked of the host because of a failure: an alert, where alerts are wanted. -/
def alarm (report : Report) (failure : Failure) : List Exchange :=
  if report.alerting then [⟨.alert failure, ()⟩] else []

variable (host : Host σ) (failure : Failure) (report : Report) (conversation : Conversation σ)

theorem fail_report :
    (fail host failure report conversation).1.2 = report.add (.failure failure) := by
  unfold fail
  dsimp only
  split <;> rfl

theorem remark_report (message : String) :
    (remark message report conversation).1.2 = report.add (.remark message) := rfl

theorem fail_exchanges :
    (fail host failure report conversation).2.exchanges =
      conversation.exchanges ++ report.alarm failure := by
  unfold fail alarm
  dsimp only
  split
  · rfl
  · exact (List.append_nil _).symm

theorem fail_state :
    (fail host failure report conversation).2.state =
      if report.alerting then (host.answer conversation.state (.alert failure)).2
      else conversation.state := by
  unfold fail
  dsimp only
  split <;> rfl

theorem fail_business :
    (fail host failure report conversation).2.business = conversation.business := by
  have silent :
      (report.alarm failure).filter (fun exchange => !exchange.request.isAlert) = [] := by
    unfold alarm
    split <;> rfl
  rw [Conversation.business, fail_exchanges, List.filter_append, silent, List.append_nil]
  rfl

@[simp]
theorem add_entries (entry : ReportEntry) :
    (report.add entry).entries = report.entries ++ [entry] := rfl

end Report

namespace Verb

variable (host : Host σ) (verb : Verb)

/-- Where a verb stands after one more parameter. -/
def take (standing : Standing σ) (parameter : Parameter) : Standing σ :=
  let ((context, report), conversation) :=
    (verb.procedure host).step host standing.context parameter standing.report
      standing.conversation
  { context, report, conversation }

/-- Where a verb stands after some parameters; nowhere if it does not begin. -/
def standing (parameters : List Parameter) (report : Report) (conversation : Conversation σ) :
    Option (Standing σ) :=
  match (verb.procedure host).start conversation with
  | (.error _, _) => none
  | (.ok context, conversation) =>
    some (parameters.foldl (verb.take host)
      { context, report := { report with verb := verb.name }, conversation })

/-- The end of a verb that stands somewhere after its last parameter. -/
def ending (standing : Standing σ) : (Unit × Report) × Conversation σ :=
  let (entry, conversation) :=
    (verb.procedure host).finish standing.context standing.conversation
  Procedure.conclude host entry standing.report conversation

theorem standing_append (earlier later : List Parameter) (report : Report)
    (conversation : Conversation σ) :
    verb.standing host (earlier ++ later) report conversation =
      (verb.standing host earlier report conversation).map (later.foldl (verb.take host)) := by
  unfold standing
  split
  · rfl
  · simp only [List.foldl_append, Option.map_some]

theorem take_of_ok {standing : Standing σ} {parameter : Parameter} {context : Context}
    {conversation : Conversation σ}
    (taken : ((verb.procedure host).parameter parameter).run.run standing.context
      standing.conversation = ((.ok (), context), conversation)) :
    verb.take host standing parameter = { standing with context, conversation } := by
  unfold take Procedure.step
  simp only [bind, StateT.bind, taken]
  rfl

theorem take_of_error {standing : Standing σ} {parameter : Parameter} {failure : Failure}
    {context : Context} {conversation : Conversation σ}
    (taken : ((verb.procedure host).parameter parameter).run.run standing.context
      standing.conversation = ((.error failure, context), conversation)) :
    verb.take host standing parameter =
      { context, report := standing.report.add (.failure failure),
        conversation := (Report.fail host failure standing.report conversation).2 } := by
  unfold take Procedure.step
  simp only [bind, StateT.bind, taken,
    ← Report.fail_report host failure standing.report conversation]
  rfl

theorem steps_eq (context : Context) (parameters : List Parameter) (report : Report)
    (conversation : Conversation σ) :
    (verb.procedure host).steps host context parameters report conversation =
      let last := parameters.foldl (verb.take host) { context, report, conversation }
      ((last.context, last.report), last.conversation) := by
  induction parameters generalizing context report conversation with
  | nil => rfl
  | cons parameter parameters ih =>
      exact ih _ _ _

variable {host verb} {report : Report} {conversation : Conversation σ}

/-- What is known of the parameters taken, and stays known when one more is taken, is known of them
all at the end. -/
theorem takes_induction {known : List Parameter → Standing σ → Prop}
    (step : ∀ taken standing parameter, known taken standing →
      known (taken ++ [parameter]) (verb.take host standing parameter))
    {taken : List Parameter} {standing : Standing σ} (start : known taken standing)
    (parameters : List Parameter) :
    known (taken ++ parameters) (parameters.foldl (verb.take host) standing) := by
  induction parameters generalizing taken standing with
  | nil => simpa using start
  | cons parameter parameters ih =>
      have rest := ih (step taken standing parameter start)
      simpa using rest

theorem standing_cases {parameters : List Parameter} {standing : Standing σ}
    (stands : verb.standing host parameters report conversation = some standing) :
    ∃ context later, (verb.procedure host).start conversation = (.ok context, later) ∧
      parameters.foldl (verb.take host)
        { context, report := { report with verb := verb.name }, conversation := later } =
          standing := by
  unfold Verb.standing at stands
  split at stands
  · cases stands
  · next context later started => exact ⟨context, later, started, Option.some.inj stands⟩

/-- Carrying out a verb is to begin it, and then either to report why it does not begin or to take
the parameters and come to the end. -/
theorem carryOut_eq (parameters : List Parameter) (report : Report)
    (conversation : Conversation σ) :
    verb.carryOut host parameters report conversation =
      let (outcome, later) := (verb.procedure host).start conversation
      let rest : Reporting σ Unit :=
        match outcome with
        | .error failure => Report.fail host failure
        | .ok context => do
          let left ← (verb.procedure host).steps host context parameters
          let entry ← (StateT.lift ((verb.procedure host).finish left) : Reporting σ _)
          Procedure.conclude host entry
      rest { report with verb := verb.name } later :=
  rfl

/-- A verb that does not begin reports why, and that is all. -/
theorem carryOut_of_nowhere {parameters : List Parameter}
    (nowhere : verb.standing host parameters report conversation = none) :
    ∃ failure later, (verb.procedure host).start conversation = (.error failure, later) ∧
      verb.carryOut host parameters report conversation =
        Report.fail host failure { report with verb := verb.name } later := by
  unfold standing at nowhere
  split at nowhere
  · next failure later started =>
      refine ⟨failure, later, started, ?_⟩
      rw [carryOut_eq, started]
  · cases nowhere

/-- A verb that begins takes its parameters, and ends from where it stands then. -/
theorem carryOut_of_standing {parameters : List Parameter} {last : Standing σ}
    (stands : verb.standing host parameters report conversation = some last) :
    verb.carryOut host parameters report conversation = verb.ending host last := by
  rcases standing_cases stands with ⟨context, later, started, rfl⟩
  rw [carryOut_eq, started]
  simp only [bind, StateT.bind, steps_eq]
  rfl

end Verb

end CommandUrl

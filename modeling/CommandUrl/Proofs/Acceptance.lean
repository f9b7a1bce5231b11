import CommandUrl.Proofs.Verb.Refusal
import CommandUrl.Proofs.Verb.Standing

/-!
# Acceptance

A raw text is refused as a whole or accepted as a whole, and which of the two is
settled before the host is asked for anything. The failures that refuse a text
are the structural ones, and no verb fails structurally, so a report shows by
its codes alone whether its text was accepted.
-/

namespace CommandUrl

variable {σ : Type} {host : Host σ}

namespace Failure

/-- A code tells whether a failure is structural. -/
theorem kind_of_code_eq {left right : Failure} (same : left.code = right.code)
    (structural : right.kind = .structural) : left.kind = .structural := by
  cases right <;> simp only [kind, reduceCtorEq] at structural <;>
    cases left <;> simp_all [code, kind]

end Failure

namespace Command

theorem kind_of_address_error {raw : String} {failure : Failure}
    (refused : address raw = .error failure) : failure.kind = .structural := by
  unfold address at refused
  split at refused
  · cases refused
  · split at refused <;> cases refused <;> rfl

theorem kind_of_parse_error {raw expected : String} {failure : Failure}
    (refused : parse raw expected = .error failure) : failure.kind = .structural := by
  unfold parse at refused
  cases read : address raw with
  | error cause =>
      simp only [read, bind, Except.bind] at refused
      cases refused
      exact kind_of_address_error read
  | ok address =>
      simp only [read, bind, Except.bind] at refused
      split at refused
      · cases refused
        rfl
      · split at refused <;> cases refused
        rfl

end Command

namespace Verb

/-- Nothing in a report says that the command was malformed. -/
def WellFormed (entries : List ReportEntry) : Prop :=
  ∀ failure, .failure failure ∈ entries → failure.kind ≠ .structural

theorem wellFormed_append {entries : List ReportEntry} {failure : Failure}
    (wellFormed : WellFormed entries) (unfit : failure.kind ≠ .structural) :
    WellFormed (entries ++ [.failure failure]) := by
  intro other mem
  rcases List.mem_append.mp mem with old | new
  · exact wellFormed other old
  · simp only [List.mem_singleton, ReportEntry.failure.injEq] at new
    exact new ▸ unfit

theorem take_wellFormed {verb : Verb} {standing : Standing σ} {parameter : Parameter}
    (wellFormed : WellFormed standing.report.entries) :
    WellFormed (verb.take host standing parameter).report.entries := by
  rcases taken : ((verb.procedure host).parameter parameter).run.run standing.context
    standing.conversation with ⟨⟨failure | _, context⟩, conversation⟩
  · rw [take_of_error host verb taken]
    exact wellFormed_append wellFormed (kind_of_parameter_error taken)
  · rw [take_of_ok host verb taken]
    exact wellFormed

theorem takes_wellFormed {verb : Verb} {standing : Standing σ} (parameters : List Parameter)
    (wellFormed : WellFormed standing.report.entries) :
    WellFormed (parameters.foldl (verb.take host) standing).report.entries := by
  induction parameters generalizing standing with
  | nil => exact wellFormed
  | cons parameter parameters ih => exact ih (take_wellFormed wellFormed)

theorem conclude_wellFormed {entry : Option ReportEntry} {report : Report}
    {conversation : Conversation σ} (wellFormed : WellFormed report.entries)
    (unfit : ∀ failure, entry = some (.failure failure) → failure.kind ≠ .structural) :
    WellFormed (Procedure.conclude host entry report conversation).1.2.entries := by
  rcases entry with _ | ⟨message | failure⟩
  · exact wellFormed
  · intro failure mem
    simp only [Procedure.conclude, Report.remark_report, Report.add_entries, List.mem_append,
      List.mem_singleton, reduceCtorEq, or_false] at mem
    exact wellFormed failure mem
  · simp only [Procedure.conclude, Report.fail_report]
    exact wellFormed_append wellFormed (unfit failure rfl)

/-- Whatever the host answers and however many parameters fail, carrying out a verb reports no
failure that says that the command was malformed. -/
theorem carryOut_wellFormed {verb : Verb} {parameters : List Parameter} {report : Report}
    {conversation : Conversation σ} (wellFormed : WellFormed report.entries) :
    WellFormed (verb.carryOut host parameters report conversation).1.2.entries := by
  cases stands : verb.standing host parameters report conversation with
  | none =>
      rcases carryOut_of_nowhere stands with ⟨failure, later, started, carried⟩
      rcases (start_follows [] verb).said conversation with ⟨_, _, begun⟩
      rw [carried, Report.fail_report]
      exact wellFormed_append wellFormed (begun failure (congrArg Prod.fst started))
  | some last =>
      rcases standing_cases stands with ⟨context, later, _, rfl⟩
      rcases (finish_follows [] verb _).said _ with ⟨_, _, ended⟩
      rw [carryOut_of_standing stands]
      exact conclude_wellFormed (takes_wellFormed parameters wellFormed) ended

end Verb

namespace Interpreter

variable {settings : Settings} {raw : String}

/-- A text is refused exactly where it is no command or its word is no verb. -/
theorem request_cases (settings : Settings) (raw : String) :
    (∃ failure, request settings raw = .error failure ∧ failure.kind = .structural ∧
      ((∃ cause, Command.parse raw settings.urlScheme = .error cause) ∨
        ∃ command, Command.parse raw settings.urlScheme = .ok command ∧
          Verb.parse? command.word = none)) ∨
    ∃ command verb, request settings raw = .ok (verb, command.parameters) ∧
      Command.parse raw settings.urlScheme = .ok command ∧
      Verb.parse? command.word = some verb := by
  cases read : Command.parse raw settings.urlScheme with
  | error cause =>
      left
      refine ⟨cause, ?_, Command.kind_of_parse_error read, Or.inl ⟨cause, rfl⟩⟩
      simp [request, read, bind, Except.bind]
  | ok command =>
      cases named : Verb.parse? command.word with
      | none =>
          left
          refine ⟨.unknownCommand command.word, ?_, rfl, Or.inr ⟨command, rfl, named⟩⟩
          simp [request, read, named, bind, Except.bind, throw, throwThe,
            MonadExceptOf.throw]
      | some verb =>
          right
          refine ⟨command, verb, ?_, rfl, named⟩
          simp [request, read, named, bind, Except.bind, pure, Except.pure]

theorem act_of_refused {failure : Failure} (refused : request settings raw = .error failure)
    (conversation : Conversation σ) :
    act host settings raw conversation =
      ({ accepted := false, verb := none, entries := [.failure failure] },
        (Report.fail host failure { alerting := settings.alertOnError } conversation).2) := by
  let reported := Report.fail host failure { alerting := settings.alertOnError } conversation
  have acted : act host settings raw conversation =
      ({ accepted := false, verb := none, entries := reported.1.2.entries }, reported.2) := by
    simp only [act, refused]
    rfl
  rw [acted, Report.fail_report]
  rfl

theorem act_of_accepted {verb : Verb} {parameters : List Parameter}
    (accepted : request settings raw = .ok (verb, parameters)) (conversation : Conversation σ) :
    (act host settings raw conversation).1 =
      { accepted := true, verb := some verb,
        entries := (verb.carryOut host parameters { alerting := settings.alertOnError }
          conversation).1.2.entries } := by
  simp only [act, accepted]
  rfl

theorem act_snd_of_accepted {verb : Verb} {parameters : List Parameter}
    (accepted : request settings raw = .ok (verb, parameters)) (conversation : Conversation σ) :
    (act host settings raw conversation).2 =
      let carried := verb.carryOut host parameters { alerting := settings.alertOnError } conversation
      (Dialogue.log (.completed verb carried.1.2.failures.length) carried.2).2 := by
  simp only [act, accepted]
  rfl

theorem act_exchanges_of_accepted {verb : Verb} {parameters : List Parameter}
    (accepted : request settings raw = .ok (verb, parameters)) (conversation : Conversation σ) :
    (act host settings raw conversation).2.exchanges =
      (verb.carryOut host parameters { alerting := settings.alertOnError }
        conversation).2.exchanges := by
  rw [act_snd_of_accepted accepted]
  rfl

theorem act_business_of_accepted {verb : Verb} {parameters : List Parameter}
    (accepted : request settings raw = .ok (verb, parameters)) (conversation : Conversation σ) :
    (act host settings raw conversation).2.business =
      (verb.carryOut host parameters { alerting := settings.alertOnError }
        conversation).2.business := by
  unfold Conversation.business
  rw [act_exchanges_of_accepted accepted]

/-- A text is refused exactly where it is no command or names no verb. A refusal is reported as one
structural failure, and the host hears of it only as an alert. An accepted text has its verb, and
nothing in its report carries the code of a structural failure, whatever the host answers. -/
theorem act_refuses_or_accepts (host : Host σ) (settings : Settings) (raw : String)
    (conversation : Conversation σ) :
    let outcome := (act host settings raw conversation).1
    let after := (act host settings raw conversation).2
    (outcome.accepted = false ↔
      (∃ failure, Command.parse raw settings.urlScheme = .error failure) ∨
        ∃ command, Command.parse raw settings.urlScheme = .ok command ∧
          Verb.parse? command.word = none) ∧
    (outcome.accepted = false →
      outcome.verb = none ∧
        ∃ failure, outcome.entries = [.failure failure] ∧ failure.kind = .structural ∧
          after.exchanges = conversation.exchanges ++
            if settings.alertOnError then [⟨.alert failure, ()⟩] else []) ∧
    (outcome.accepted = true →
      (∃ command verb, Command.parse raw settings.urlScheme = .ok command ∧
        Verb.parse? command.word = some verb ∧ outcome.verb = some verb) ∧
      ∀ entry ∈ outcome.entries, ∀ failure : Failure, failure.kind = .structural →
        entry.code? ≠ some failure.code) := by
  intro outcome after
  rcases request_cases settings raw with
    ⟨failure, refused, structural, cause⟩ | ⟨command, verb, accepted, read, named⟩
  · have acted : outcome = { accepted := false, verb := none, entries := [.failure failure] } :=
      congrArg Prod.fst (act_of_refused refused conversation)
    refine ⟨by simp [acted, cause], ?_, by simp [acted]⟩
    intro _
    refine ⟨by simp [acted], failure, by simp [acted], structural, ?_⟩
    have told : after = _ := congrArg Prod.snd (act_of_refused refused conversation)
    rw [told]
    exact Report.fail_exchanges host failure _ conversation
  · have acted : outcome = _ := act_of_accepted accepted conversation
    refine ⟨by simp [acted, read, named], by simp [acted], ?_⟩
    intro _
    refine ⟨⟨command, verb, read, named, by simp [acted]⟩, ?_⟩
    intro entry mem failure structural
    rw [acted] at mem
    cases entry with
    | remark message => nofun
    | failure other =>
        intro same
        have unfit := Verb.carryOut_wellFormed (by simp [Verb.WellFormed]) other mem
        exact unfit (Failure.kind_of_code_eq (Option.some.inj same) structural)

end Interpreter

end CommandUrl

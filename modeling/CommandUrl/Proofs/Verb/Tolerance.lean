import CommandUrl.Proofs.Verb.Refusal
import CommandUrl.Proofs.Verb.Standing

/-!
# Tolerance

A parameter that is refused might as well not have been there. The host is told
of it, where alerts are wanted, and the report has one entry more; everything
else that the verb does, it does as it would have without the parameter.

The proof compares two runs. They agree where the refused parameter has been
taken in one of them and not in the other, since a refusal touches neither the
context nor the host, and from there on they take the same parameters, which
keeps them in agreement as long as the host does not answer by what it was
alerted of.
-/

namespace CommandUrl

variable {σ : Type} {host : Host σ}

theorem Report.fail_agree_self (inert : host.AlertsInert) (failure : Failure) (report : Report)
    (conversation : Conversation σ) :
    Conversation.Agree host (Report.fail host failure report conversation).2 conversation where
  alike := by
    rw [Report.fail_state]
    split
    · exact inert conversation.state failure
    · exact .refl conversation.state
  business := Report.fail_business host failure report conversation

theorem Report.fail_agree (inert : host.AlertsInert) (failure : Failure) (one other : Report)
    {left right : Conversation σ} (agree : Conversation.Agree host left right) :
    Conversation.Agree host (Report.fail host failure one left).2
      (Report.fail host failure other right).2 :=
  (fail_agree_self inert failure one left).trans
    (agree.trans (fail_agree_self inert failure other right).symm)

/-- The two runs of a verb stand at the same point: they have the same context, their conversations
agree, and since they had reported `one` and `other` they have reported the same. -/
structure Standing.Agree (host : Host σ) (one other : List ReportEntry) (left right : Standing σ) :
    Prop where
  context : left.context = right.context
  conversation : Conversation.Agree host left.conversation right.conversation
  entries : ∃ added, left.report.entries = one ++ added ∧ right.report.entries = other ++ added

namespace Verb

variable {verb : Verb} {one other : List ReportEntry} {left right : Standing σ}

/-- Runs that agree still do when both take the same parameter. -/
theorem take_agree (inert : host.AlertsInert) (agree : Standing.Agree host one other left right)
    (parameter : Parameter) :
    Standing.Agree host one other (verb.take host left parameter)
      (verb.take host right parameter) := by
  have follows : Refuses host [] left.context [] left.context
      ((verb.procedure host).parameter parameter) := parameter_refuses verb parameter
  -- the handling comes to the same end in both runs, so they report it or not together
  rcases Dialogue.Follows.agree follows agree.conversation with ⟨same, after⟩
  rcases agree.entries with ⟨added, leftEntries, rightEntries⟩
  rcases takenLeft : ((verb.procedure host).parameter parameter).run.run left.context
    left.conversation with ⟨⟨outcome, context⟩, conversationLeft⟩
  rcases takenRight : ((verb.procedure host).parameter parameter).run.run right.context
    right.conversation with ⟨outcomeRight, conversationRight⟩
  rw [takenLeft, agree.context, takenRight] at same after
  simp only at same after
  subst same
  cases outcome with
  | ok =>
      rw [take_of_ok host verb takenLeft, take_of_ok host verb takenRight]
      exact ⟨rfl, after, added, leftEntries, rightEntries⟩
  | error failure =>
      rw [take_of_error host verb takenLeft, take_of_error host verb takenRight]
      refine ⟨rfl, Report.fail_agree inert failure _ _ after, added ++ [.failure failure], ?_, ?_⟩
      · simp [leftEntries]
      · simp [rightEntries]

theorem takes_agree (inert : host.AlertsInert) (agree : Standing.Agree host one other left right)
    (parameters : List Parameter) :
    Standing.Agree host one other (parameters.foldl (verb.take host) left)
      (parameters.foldl (verb.take host) right) := by
  induction parameters generalizing left right with
  | nil => exact agree
  | cons parameter parameters ih => exact ih (take_agree inert agree parameter)

theorem ending_agree (inert : host.AlertsInert) (agree : Standing.Agree host one other left right) :
    Conversation.Agree host (verb.ending host left).2 (verb.ending host right).2 ∧
      ∃ added, (verb.ending host left).1.2.entries = one ++ added ∧
        (verb.ending host right).1.2.entries = other ++ added := by
  rcases (finish_follows [] verb left.context).agree agree.conversation with ⟨same, after⟩
  rcases agree.entries with ⟨added, leftEntries, rightEntries⟩
  unfold ending
  rcases endedLeft : (verb.procedure host).finish left.context left.conversation with
    ⟨entry, conversationLeft⟩
  rcases endedRight : (verb.procedure host).finish right.context right.conversation with
    ⟨entryRight, conversationRight⟩
  rw [endedLeft, agree.context, endedRight] at same after
  simp only at same after
  subst same
  rcases entry with _ | ⟨message | failure⟩
  · exact ⟨after, added, leftEntries, rightEntries⟩
  · refine ⟨⟨after.alike, after.business⟩, added ++ [.remark message], ?_, ?_⟩
    · simp [Procedure.conclude, Report.remark_report, leftEntries]
    · simp [Procedure.conclude, Report.remark_report, rightEntries]
  · refine ⟨Report.fail_agree inert failure _ _ after, added ++ [.failure failure], ?_, ?_⟩
    · simp [Procedure.conclude, Report.fail_report, leftEntries]
    · simp [Procedure.conclude, Report.fail_report, rightEntries]

/-- Where a parameter has just been refused, the run agrees with one that did not have it. -/
theorem take_agree_of_refusal (inert : host.AlertsInert) {here : Standing σ}
    {parameter : Parameter} {failure : Failure}
    (reported : (verb.take host here parameter).report.entries =
      here.report.entries ++ [.failure failure])
    (refusal : failure.isRefusal) :
    Standing.Agree host (here.report.entries ++ [.failure failure]) here.report.entries
      (verb.take host here parameter) here := by
  rcases taken : ((verb.procedure host).parameter parameter).run.run here.context
    here.conversation with ⟨⟨cause | _, context⟩, conversation⟩
  · rw [take_of_error host verb taken] at reported ⊢
    simp only [Report.add_entries, List.append_cancel_left_eq, List.cons.injEq,
      ReportEntry.failure.injEq, and_true] at reported
    subst reported
    rcases untouched_of_refusal taken refusal with ⟨sameContext, sameExchanges, sameState⟩
    have agree : Conversation.Agree host conversation here.conversation := by
      refine ⟨sameState ▸ .refl _, ?_⟩
      simp only [Conversation.business, sameExchanges]
    exact ⟨sameContext, (Report.fail_agree_self inert cause _ _).trans agree, [], by simp, by simp⟩
  -- a parameter that took effect would have added no entry
  · simp [take_of_ok host verb taken] at reported

/-- A verb that refuses one of its parameters does what it would have done without it: whatever
else it asks the host is the same and is answered in the same way, and its report is the same but
for the entry of that parameter. -/
theorem carryOut_tolerates (inert : host.AlertsInert) (verb : Verb)
    (earlier later : List Parameter) (parameter : Parameter) (report : Report)
    (conversation : Conversation σ) {here : Standing σ} {failure : Failure}
    (stands : verb.standing host earlier report conversation = some here)
    (reported : (verb.take host here parameter).report.entries =
      here.report.entries ++ [.failure failure])
    (refusal : failure.isRefusal) :
    let whole := verb.carryOut host (earlier ++ parameter :: later) report conversation
    let rest := verb.carryOut host (earlier ++ later) report conversation
    whole.2.business = rest.2.business ∧
      ∃ added, whole.1.2.entries = here.report.entries ++ .failure failure :: added ∧
        rest.1.2.entries = here.report.entries ++ added := by
  intro whole rest
  have wholeStands : verb.standing host (earlier ++ parameter :: later) report conversation =
      some (later.foldl (verb.take host) (verb.take host here parameter)) := by
    rw [standing_append, stands]
    rfl
  have restStands : verb.standing host (earlier ++ later) report conversation =
      some (later.foldl (verb.take host) here) := by
    rw [standing_append, stands]
    rfl
  have wholeEnds : whole = _ := carryOut_of_standing wholeStands
  have restEnds : rest = _ := carryOut_of_standing restStands
  have agree : Standing.Agree host (here.report.entries ++ [.failure failure])
      here.report.entries (later.foldl (verb.take host) (verb.take host here parameter))
      (later.foldl (verb.take host) here) :=
    takes_agree inert (take_agree_of_refusal inert reported refusal) later
  rcases ending_agree inert agree with ⟨agree, added, wholeEntries, restEntries⟩
  rw [wholeEnds, restEnds]
  refine ⟨agree.business, added, ?_, restEntries⟩
  simpa using wholeEntries

theorem find_tolerates_colour :
    let report : Report := { alerting := true }
    let conversation : Conversation CatalogueState :=
      { state :=
          { catalogue := {}, preferences := {}, lastSelected := none, tree := .ofWorking [] } }
    let whole := find.carryOut catalogueHost
      [⟨"path", "/left"⟩, ⟨"colour", "red"⟩, ⟨"path", "/right"⟩] report conversation
    let rest := find.carryOut catalogueHost
      [⟨"path", "/left"⟩, ⟨"path", "/right"⟩] report conversation
    whole.2.business = rest.2.business ∧
      ∃ added, whole.1.2.entries = .failure (.unrecognizedParameter "find" "colour") :: added ∧
        rest.1.2.entries = added :=
  carryOut_tolerates catalogueHost_alertsInert find [⟨"path", "/left"⟩] [⟨"path", "/right"⟩]
    ⟨"colour", "red"⟩ _ _ rfl rfl rfl

end Verb

end CommandUrl

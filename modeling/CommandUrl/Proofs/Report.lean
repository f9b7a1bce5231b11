import CommandUrl.Proofs.Acceptance
import CommandUrl.Proofs.Verb.Tolerance
import Mathlib.Data.List.Forall2

/-!
# The report, the log and the alerts

What a command did is written down three times: in its report, in the log, and
in what the user is alerted of. The three are written in different places, and
the log has more in it than the others, since a verb also logs what matters to
nobody but a developer. They tell the same story all the same: left to
themselves, verbs log for developers only and alert nobody, and whatever is
reported is logged and alerted in the same breath.

So a stretch of a conversation tells of the entries that the report got in it.
This holds at a failure, at a remark and wherever a verb talks by itself, and it
is preserved when one stretch follows another, which is all there is to a run.

Whether the user is alerted makes no difference to anything else. That compares
two runs, which agree from the first request on if the host does not answer by
what it was alerted of.
-/

namespace CommandUrl

variable {σ : Type}

/-- The wording of a failure begins with its code. -/
theorem Failure.message_begins (failure : Failure) :
    ∃ rest, failure.message = failure.code ++ ": " ++ rest := by
  cases failure with
  | malformedUrl raw => exact ⟨"could not fashion a URL from this string: " ++ raw, rfl⟩
  | missingScheme raw => exact ⟨"could not extract a scheme from this URL: " ++ raw, rfl⟩
  | wrongScheme scheme => exact ⟨"invalid scheme detected: " ++ scheme, rfl⟩
  | missingCommand raw => exact ⟨"could not extract a command from this URL: " ++ raw, rfl⟩
  | unknownCommand name => exact ⟨"invalid command: " ++ name, rfl⟩
  | unrecognizedParameter verb label =>
      exact ⟨verb ++ " query parameter of '" ++ label ++ "' not recognized", rfl⟩
  | invalidParameterValue verb label value =>
      exact ⟨"'" ++ value ++ "' is not a valid value for the " ++ verb ++ " " ++ label ++
        " parameter", rfl⟩
  | missingContext label =>
      exact ⟨"'" ++ label ++ "' needs a collection, but none has been opened yet", rfl⟩
  | fieldSetFailed label => exact ⟨"add query parameter of '" ++ label ++ "' not recognized", rfl⟩
  | fileRevealFailed path =>
      exact ⟨"item to be opened at " ++ path ++
        " could not be used, possibly due to expired permissions", rfl⟩
  | collectionNotFound description | noteNotFound description | scriptPathInvalid description
  | noteCommitFailed description | io description | internal description =>
      exact ⟨description, rfl⟩

namespace ReportEntry

/-- The failure that an entry reports. -/
def failure? : ReportEntry → Option Failure
  | remark _ => none
  | failure cause => some cause

/-- What is logged of an entry while a verb is at work. -/
def event (verb : String) : ReportEntry → Event
  | remark message => .noted verb message
  | failure cause => .failed verb cause

/-- An entry is grave exactly if it has a code, and then its wording begins with the code. -/
theorem message_of_code (entry : ReportEntry) :
    (entry.severity = .error ↔ entry.code?.isSome) ∧
      ∀ code, entry.code? = some code → ∃ rest, entry.message = code ++ ": " ++ rest := by
  cases entry with
  | remark message => simp [severity, code?]
  | failure cause =>
      refine ⟨by simp [severity, code?], ?_⟩
      intro code same
      have same : cause.code = code := Option.some.inj same
      subst same
      exact cause.message_begins

theorem length_filterMap_failure? (entries : List ReportEntry) :
    (entries.filterMap failure?).length = entries.countP (·.severity = .error) := by
  rw [List.countP_eq_length_filter]
  induction entries with
  | nil => rfl
  | cons entry entries ih =>
      rw [List.filterMap_cons, List.filter_cons]
      cases entry with
      | remark message => exact ih
      | failure cause => exact congrArg Nat.succ ih

end ReportEntry

/-- The failure that the user is alerted of. -/
def Request.alerted? : Request → Option Failure
  | .alert failure => some failure
  | _ => none

/-- The level at which an entry of a severity is logged. -/
def Severity.level : Severity → Level
  | .info => .info
  | .error => .error

namespace Event

/-- The verb that has come to its end, and its count of failures. -/
def completion? : Event → Option (Verb × Nat)
  | completed verb failures => some (verb, failures)
  | _ => none

/-- The errors of a log, and its infos but for the completion. -/
def isReport (event : Event) : Bool :=
  event.level = .error || event.level = .info && event.completion?.isNone

/-- The event says what the entry says, of the verb at work. -/
structure Mirrors (verb : String) (event : Event) (entry : ReportEntry) : Prop where
  level : event.level = entry.severity.level
  message : event.message = entry.message
  verb : event.fields.lookup "verb" = some (.text verb)
  code : event.fields.lookup "code" = entry.code?.map .text

theorem mirrors_event (verb : String) (entry : ReportEntry) :
    (entry.event verb).Mirrors verb entry := by
  cases entry with
  | remark message => exact ⟨rfl, rfl, rfl, rfl⟩
  | failure cause => exact ⟨rfl, rfl, rfl, rfl⟩

variable (verb : String) (entries : List ReportEntry)

theorem forall_mirrors : List.Forall₂ (Mirrors verb) (entries.map (·.event verb)) entries := by
  induction entries with
  | nil => exact .nil
  | cons entry entries ih => exact .cons (mirrors_event verb entry) ih

theorem filter_isReport_map_event :
    (entries.map (·.event verb)).filter isReport = entries.map (·.event verb) := by
  apply List.filter_eq_self.mpr
  simp only [List.mem_map, forall_exists_index, and_imp, forall_apply_eq_imp_iff₂]
  intro entry _
  cases entry <;> rfl

/-- Where all that is not for developers only mirrors a report, it makes up the reports of the log,
and there is no completion. -/
theorem reports_of_told {events : List Event} {verb : String} {entries : List ReportEntry}
    (told : events.filter (·.level ≠ .debug) = entries.map (·.event verb)) :
    events.filter isReport = entries.map (·.event verb) ∧ events.filterMap completion? = [] := by
  constructor
  · have narrower : events.filter isReport =
        (events.filter (·.level ≠ .debug)).filter isReport := by
      rw [List.filter_filter]
      apply List.filter_congr
      intro event _
      cases level : event.level <;> simp [isReport, level]
    rw [narrower, told, filter_isReport_map_event]
  · apply List.filterMap_eq_nil_iff.mpr
    intro event mem
    by_cases quiet : event.level = .debug
    · cases event <;> first | rfl | cases quiet
    · have heard : event ∈ entries.map (·.event verb) := by
        rw [← told]
        simpa [quiet] using mem
      rcases List.mem_map.mp heard with ⟨entry, _, rfl⟩
      cases entry <;> rfl

end Event

namespace Report

/-- The report with more entries. -/
def extend (report : Report) (added : List ReportEntry) : Report :=
  { report with entries := report.entries ++ added }

theorem extend_nil (report : Report) : report.extend [] = report := by
  simp [extend]

theorem extend_extend (report : Report) (added more : List ReportEntry) :
    (report.extend added).extend more = report.extend (added ++ more) := by
  simp [extend]

/-- Between two points of a conversation, what the user was alerted of and what was logged is what
was added to the report. -/
structure Tells (report : Report) (before after : Conversation σ) (added : List ReportEntry) :
    Prop where
  alerts : ∃ said, after.exchanges = before.exchanges ++ said ∧
    said.filterMap (·.request.alerted?) =
      if report.alerting then added.filterMap ReportEntry.failure? else []
  events : ∃ events, after.events = before.events ++ events ∧
    events.filter (·.level ≠ .debug) = added.map (·.event report.verb)

namespace Tells

variable {report : Report} {before middle after : Conversation σ} {added more : List ReportEntry}

theorem refl (report : Report) (conversation : Conversation σ) :
    report.Tells conversation conversation [] where
  alerts := ⟨[], by simp, by simp⟩
  events := ⟨[], by simp, rfl⟩

theorem trans (first : report.Tells before middle added) (rest : report.Tells middle after more) :
    report.Tells before after (added ++ more) where
  alerts := by
    rcases first.alerts with ⟨said, grown, alerted⟩
    rcases rest.alerts with ⟨moreSaid, moreGrown, moreAlerted⟩
    refine ⟨said ++ moreSaid, by simp [moreGrown, grown], ?_⟩
    rw [List.filterMap_append, alerted, moreAlerted]
    split <;> simp
  events := by
    rcases first.events with ⟨events, grown, told⟩
    rcases rest.events with ⟨moreEvents, moreGrown, moreTold⟩
    refine ⟨events ++ moreEvents, by simp [moreGrown, grown], ?_⟩
    rw [List.filter_append, told, moreTold, List.map_append]

/-- A verb by itself alerts nobody and logs for developers only. -/
theorem ofSaid {host : Host σ} {said : List Exchange} (report : Report)
    (talk : Dialogue.Said host Discreet [] before after said) : report.Tells before after [] where
  alerts := by
    refine ⟨said, talk.exchanges, ?_⟩
    have discreet : ∀ exchange ∈ said, exchange.request.alerted? = none := by
      intro exchange mem
      rcases List.append_of_mem mem with ⟨earlier, later, split⟩
      have quiet : exchange.request.isAlert = false := talk.kept earlier exchange later split
      cases asked : exchange.request <;> simp_all [Request.isAlert, Request.alerted?]
    simpa using discreet
  events := by
    rcases talk.quiet with ⟨events, grown, quiet⟩
    exact ⟨events, grown, by simpa using quiet⟩

theorem remark (report : Report) (message : String) (conversation : Conversation σ) :
    report.Tells conversation (Report.remark message report conversation).2 [.remark message] where
  alerts := ⟨[], (List.append_nil _).symm, by simp [ReportEntry.failure?]⟩
  events := ⟨[.noted report.verb message], rfl, rfl⟩

theorem fail (host : Host σ) (report : Report) (cause : Failure) (conversation : Conversation σ) :
    report.Tells conversation (Report.fail host cause report conversation).2 [.failure cause] where
  alerts := by
    refine ⟨report.alarm cause, Report.fail_exchanges host cause report conversation, ?_⟩
    unfold alarm
    split <;> rfl
  events := by
    refine ⟨[.failed report.verb cause], ?_, rfl⟩
    unfold Report.fail
    dsimp only
    split <;> rfl

end Tells

end Report

namespace Verb

theorem take_tells (host : Host σ) (verb : Verb) (standing : Standing σ) (parameter : Parameter) :
    ∃ added, (verb.take host standing parameter).report = standing.report.extend added ∧
      standing.report.Tells standing.conversation
        (verb.take host standing parameter).conversation added := by
  have discreet : Refuses host [] standing.context [] standing.context
      ((verb.procedure host).parameter parameter) := parameter_refuses verb parameter
  rcases taken : ((verb.procedure host).parameter parameter).run.run standing.context
    standing.conversation with ⟨⟨failure | _, context⟩, conversation⟩
  · rcases discreet.said_of_error taken with ⟨said, talk, _⟩
    rw [take_of_error host verb taken]
    exact ⟨[.failure failure], rfl, (Report.Tells.ofSaid _ talk).trans (.fail host _ failure _)⟩
  · rcases discreet.said_of_ok taken with ⟨said, talk, _⟩
    rw [take_of_ok host verb taken]
    exact ⟨[], standing.report.extend_nil.symm, .ofSaid _ talk⟩

theorem takes_tell (host : Host σ) (verb : Verb) (standing : Standing σ)
    (parameters : List Parameter) :
    ∃ added, (parameters.foldl (verb.take host) standing).report = standing.report.extend added ∧
      standing.report.Tells standing.conversation
        (parameters.foldl (verb.take host) standing).conversation added := by
  induction parameters generalizing standing with
  | nil => exact ⟨[], standing.report.extend_nil.symm, .refl _ _⟩
  | cons parameter parameters ih =>
      rcases take_tells host verb standing parameter with ⟨added, reported, told⟩
      rcases ih (verb.take host standing parameter) with ⟨more, moreReported, moreTold⟩
      rw [reported] at moreReported moreTold
      refine ⟨added ++ more, ?_, told.trans ⟨moreTold.alerts, moreTold.events⟩⟩
      rw [← Report.extend_extend]
      exact moreReported

theorem ending_tells (host : Host σ) (verb : Verb) (standing : Standing σ) :
    ∃ added, (verb.ending host standing).1.2 = standing.report.extend added ∧
      standing.report.Tells standing.conversation (verb.ending host standing).2 added := by
  rcases (finish_follows [] verb standing.context).said standing.conversation with ⟨said, talk, _⟩
  have told : standing.report.Tells standing.conversation _ [] := .ofSaid standing.report talk
  unfold ending
  rcases finished : (verb.procedure host).finish standing.context standing.conversation with
    ⟨entry, conversation⟩
  rw [finished] at told
  rcases entry with _ | ⟨message | failure⟩
  · exact ⟨[], standing.report.extend_nil.symm, told⟩
  · exact ⟨[.remark message], rfl, told.trans (.remark _ message conversation)⟩
  · exact ⟨[.failure failure], Report.fail_report host failure _ conversation,
      told.trans (.fail host _ failure conversation)⟩

/-- A verb that is carried out tells in the log and by alerts what it reports. -/
theorem carryOut_tells (host : Host σ) (verb : Verb) (parameters : List Parameter)
    (report : Report) (conversation : Conversation σ) :
    let named : Report := { report with verb := verb.name }
    ∃ added, (verb.carryOut host parameters report conversation).1.2 = named.extend added ∧
      named.Tells conversation (verb.carryOut host parameters report conversation).2 added := by
  intro named
  rcases (start_follows [] verb).said conversation with ⟨said, talk, _⟩
  have begun : named.Tells conversation _ [] := .ofSaid named talk
  cases stands : verb.standing host parameters report conversation with
  | none =>
      rcases carryOut_of_nowhere stands with ⟨failure, later, started, carried⟩
      rw [started] at begun
      rw [carried]
      exact ⟨[.failure failure], Report.fail_report host failure named later,
        begun.trans (.fail host named failure later)⟩
  | some last =>
      rcases standing_cases stands with ⟨context, later, started, rfl⟩
      rw [started] at begun
      rw [carryOut_of_standing stands]
      let first : Standing σ := ⟨context, named, later⟩
      rcases takes_tell host verb first parameters with ⟨added, reported, told⟩
      rcases ending_tells host verb (parameters.foldl (verb.take host) first) with
        ⟨more, ended, moreTold⟩
      rw [reported] at ended moreTold
      refine ⟨added ++ more, ?_, (begun.trans told).trans ⟨moreTold.alerts, moreTold.events⟩⟩
      rw [← Report.extend_extend]
      exact ended

/-- Whether the user is alerted makes no difference to what a verb does otherwise. -/
theorem carryOut_agree {host : Host σ} (inert : host.AlertsInert) (verb : Verb) (one other : Report)
    (same : one.entries = other.entries) (parameters : List Parameter)
    (conversation : Conversation σ) :
    let left := verb.carryOut host parameters one conversation
    let right := verb.carryOut host parameters other conversation
    left.1.2.entries = right.1.2.entries ∧ left.2.business = right.2.business := by
  intro left right
  rcases started : (verb.procedure host).start conversation with ⟨failure | context, later⟩
  · have refused (report : Report) : verb.carryOut host parameters report conversation =
        Report.fail host failure { report with verb := verb.name } later := by
      rw [carryOut_eq, started]
    simp only [left, right, refused, Report.fail_report, Report.fail_business, Report.add_entries,
      same, and_self]
  · have stands (report : Report) : verb.standing host parameters report conversation =
        some (parameters.foldl (verb.take host)
          ⟨context, { report with verb := verb.name }, later⟩) := by
      simp [standing, started]
    have leftEnds : left = _ := carryOut_of_standing (stands one)
    have rightEnds : right = _ := carryOut_of_standing (stands other)
    have begun : Standing.Agree host one.entries one.entries
        ⟨context, { one with verb := verb.name }, later⟩
        ⟨context, { other with verb := verb.name }, later⟩ :=
      ⟨rfl, ⟨.refl later.state, rfl⟩, [], by simp, by simp [same]⟩
    rcases ending_agree inert (takes_agree inert begun parameters) with
      ⟨agree, added, leftEntries, rightEntries⟩
    rw [leftEnds, rightEnds]
    exact ⟨leftEntries.trans rightEntries.symm, agree.business⟩

end Verb

namespace Interpreter

variable {host : Host σ} {settings : Settings} {raw : String}

theorem act_tells_of_refused {failure : Failure}
    (refused : request settings raw = .error failure) (conversation : Conversation σ) :
    ({ alerting := settings.alertOnError } : Report).Tells conversation
      (act host settings raw conversation).2 (act host settings raw conversation).1.entries := by
  rw [act_of_refused refused conversation]
  exact .fail host _ failure conversation

theorem act_tells_of_accepted {verb : Verb} {parameters : List Parameter}
    (accepted : request settings raw = .ok (verb, parameters)) (conversation : Conversation σ) :
    let outcome := (act host settings raw conversation).1
    let after := (act host settings raw conversation).2
    ∃ last : Conversation σ,
      ({ alerting := settings.alertOnError, verb := verb.name } : Report).Tells conversation last
        outcome.entries ∧
      after.exchanges = last.exchanges ∧
      after.events =
        last.events ++ [.completed verb (outcome.entries.countP (·.severity = .error))] := by
  intro outcome after
  have acted : outcome = _ := act_of_accepted accepted conversation
  have grown : after = _ := act_snd_of_accepted accepted conversation
  rcases Verb.carryOut_tells host verb parameters { alerting := settings.alertOnError }
    conversation with ⟨added, reported, told⟩
  have entries : outcome.entries = added := by
    rw [acted, reported]
    exact List.nil_append added
  have failures (report : Report) :
      report.failures.length = report.entries.countP (·.severity = .error) :=
    ReportEntry.length_filterMap_failure? report.entries
  refine ⟨_, entries ▸ told, ?_, ?_⟩
  · rw [grown]
    rfl
  · rw [grown, acted]
    simp only [Dialogue.log, failures]

theorem act_agree (inert : host.AlertsInert) (settings : Settings) (alerting : Bool) (raw : String)
    (conversation : Conversation σ) :
    let left := act host { settings with alertOnError := alerting } raw conversation
    let right := act host settings raw conversation
    left.1 = right.1 ∧ left.2.business = right.2.business := by
  intro left right
  let other : Settings := { settings with alertOnError := alerting }
  have same : request other raw = request settings raw := rfl
  rcases request_cases settings raw with ⟨failure, refused, _⟩ | ⟨command, verb, accepted, _, _⟩
  · have leftEnds : left = _ := act_of_refused (same.trans refused) conversation
    have rightEnds : right = _ := act_of_refused refused conversation
    rw [leftEnds, rightEnds]
    exact ⟨rfl, by simp only [Report.fail_business]⟩
  · have leftSays : left.1 = _ := act_of_accepted (same.trans accepted) conversation
    have rightSays : right.1 = _ := act_of_accepted accepted conversation
    have leftEnds : left.2 = _ := act_snd_of_accepted (same.trans accepted) conversation
    have rightEnds : right.2 = _ := act_snd_of_accepted accepted conversation
    rcases Verb.carryOut_agree inert verb { alerting } { alerting := settings.alertOnError } rfl
      command.parameters conversation with ⟨entries, business⟩
    rw [leftSays, rightSays, leftEnds, rightEnds]
    exact ⟨congrArg _ entries, business⟩

/-- The report, the log and the alerts of a text tell the same, entry by entry and in order. The
completion of an accepted text counts its failures, and a refused text has no completion. Whether
the user is alerted makes no difference to the outcome or to what else is asked of the host. -/
theorem act_tells_one_story (host : Host σ) (settings : Settings) (raw : String)
    (conversation : Conversation σ) :
    let outcome := (act host settings raw conversation).1
    let after := (act host settings raw conversation).2
    (∃ said events, after.exchanges = conversation.exchanges ++ said ∧
      after.events = conversation.events ++ events ∧
      said.filterMap (·.request.alerted?) =
        (if settings.alertOnError then outcome.entries.filterMap ReportEntry.failure? else []) ∧
      List.Forall₂ (Event.Mirrors (outcome.verb.elim "" Verb.name))
        (events.filter Event.isReport) outcome.entries ∧
      (outcome.accepted = true → ∃ verb, outcome.verb = some verb ∧
        events.filterMap Event.completion? =
          [(verb, outcome.entries.countP (·.severity = .error))]) ∧
      (outcome.accepted = false → events.filterMap Event.completion? = [])) ∧
    (∀ entry ∈ outcome.entries, (entry.severity = .error ↔ entry.code?.isSome) ∧
      ∀ code, entry.code? = some code → ∃ rest, entry.message = code ++ ": " ++ rest) ∧
    (host.AlertsInert →
      let flipped := act host { settings with alertOnError := !settings.alertOnError } raw
        conversation
      flipped.1 = outcome ∧ flipped.2.business = after.business) := by
  intro outcome after
  refine ⟨?_, fun entry _ => entry.message_of_code,
    fun inert => act_agree inert settings _ raw conversation⟩
  rcases request_cases settings raw with ⟨failure, refused, _⟩ | ⟨command, verb, accepted, _, _⟩
  · have acted : outcome = _ := congrArg Prod.fst (act_of_refused refused conversation)
    have told : Report.Tells _ conversation after outcome.entries :=
      act_tells_of_refused refused conversation
    rcases told.alerts with ⟨said, grown, alerted⟩
    rcases told.events with ⟨events, logged, mirrored⟩
    rcases Event.reports_of_told mirrored with ⟨reports, incomplete⟩
    refine ⟨said, events, grown, logged, alerted, ?_, by simp [acted], fun _ => incomplete⟩
    rw [reports, acted]
    exact Event.forall_mirrors "" _
  · have acted : outcome = _ := act_of_accepted accepted conversation
    rcases act_tells_of_accepted accepted conversation with ⟨last, told, sameSaid, completed⟩
    rcases told.alerts with ⟨said, grown, alerted⟩
    rcases told.events with ⟨events, logged, mirrored⟩
    rcases Event.reports_of_told mirrored with ⟨reports, incomplete⟩
    let completion : Event := .completed verb (outcome.entries.countP (·.severity = .error))
    have silent : [completion].filter Event.isReport = [] := rfl
    refine ⟨said, events ++ [completion], sameSaid.trans grown, ?_, alerted, ?_, ?_,
      by simp [acted]⟩
    · rw [← List.append_assoc, ← logged]
      exact completed
    · have named : outcome.verb = some verb := by rw [acted]
      rw [List.filter_append, silent, List.append_nil, reports, named]
      exact Event.forall_mirrors verb.name _
    · intro _
      refine ⟨verb, by rw [acted], ?_⟩
      rw [List.filterMap_append, incomplete]
      rfl

/-- A parameter that is reported, once with an alert and once without. -/
theorem act_tells_of_colour :
    let conversation : Conversation CatalogueState :=
      { state :=
          { catalogue := {}, preferences := {}, lastSelected := none, tree := .ofWorking [] } }
    let loud := act catalogueHost { alertOnError := true } "notenik://prefs?colour=red" conversation
    let still :=
      act catalogueHost { alertOnError := false } "notenik://prefs?colour=red" conversation
    catalogueHost.AlertsInert ∧
      loud.1.entries = [.failure (.unrecognizedParameter "prefs" "colour")] ∧
      still.1 = loud.1 ∧ still.2.business = loud.2.business := by
  intro conversation loud still
  have asked : request { alertOnError := true } "notenik://prefs?colour=red" =
      .ok (.prefs, [⟨"colour", "red"⟩]) := rfl
  have acted : loud.1 = _ := act_of_accepted asked conversation
  rcases act_tells_one_story catalogueHost { alertOnError := true } "notenik://prefs?colour=red"
    conversation with ⟨_, _, inertly⟩
  refine ⟨catalogueHost_alertsInert, ?_, inertly catalogueHost_alertsInert⟩
  rw [acted]
  rfl

end Interpreter

end CommandUrl

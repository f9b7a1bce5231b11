import CommandUrl.Proofs.Note.Content
import CommandUrl.Proofs.Verb.Commit
import CommandUrl.Proofs.Verb.Tolerance

/-!
# The content of the note that is added

The note that the verb `add` adds has the content that parameters have written
since the last collection was opened. A parameter either opens a collection,
and then the draft is new if there is one at all, or it leaves the collection
and the draft takes the parameter. Nothing else happens to a draft, whether
parameters in between fail or not, and so what is added in the end is a draft
that was new at the last opening and has taken all parameters since.

A parameter for content asks the host for nothing, and what it writes depends on
the draft alone. Two of them that are for different parts of the note can
therefore change places, as long as the host is not alerted of both.
-/

namespace CommandUrl.Verb

variable {σ : Type}

section Handlings

variable {host : Host σ} {context : Context}

/-- A parameter leaves a new draft in the collection that it opens, or else the collection that
there was and a draft that has taken the parameter. -/
def Leaves (parameter : Parameter) (context : Context) (said : List Exchange) (left : Context) :
    Prop :=
  match opening? parameter said with
  | some (window, schema) =>
    left.collection = some window ∧ left.draft = schema.map Draft.new
  | none =>
    left.collection = context.collection ∧ left.draft = context.draft.map (·.take parameter)

/-- The handling of a parameter leaves the draft as the parameter says, whether it fails or not. -/
def Composes (host : Host σ) (parameter : Parameter) (context : Context)
    (handling : Handling σ Unit) : Prop :=
  Handling.Follows host (fun _ _ => True) (fun said _ left => Leaves parameter context said left)
    (fun said _ left => Leaves parameter context said left) [] context handling

theorem leaves_of_unhanded {parameter : Parameter} {said : List Exchange} {left : Context}
    (unhanded : add.inForce? said = none) (collection : left.collection = context.collection)
    (draft : left.draft = context.draft.map (·.take parameter)) :
    Leaves parameter context said left := by
  rw [Leaves, opening?_of_unhanded unhanded]
  exact ⟨collection, draft⟩

theorem beginDraft_composes {parameter : Parameter} {locator : Locator}
    (located : parameter.locator? = some locator) :
    Composes host parameter context (beginDraft host locator) := by
  have untaken : context.draft = context.draft.map (·.take parameter) := by
    cases context.draft with
    | none => rfl
    | some draft => simp [Draft.take, located]
  refine .establish_bind (fun _ _ _ => trivial) (fun _ _ => trivial) ?_ ?_ ?_
  · intro sought _ looked
    exact leaves_of_unhanded (inForce?_of_lookups looked) rfl untaken
  · intro sought link _ looked
    exact leaves_of_unhanded (inForce?_of_refused looked) rfl untaken
  · intro sought link window looked
    refine .ask_bind trivial fun schema => .modify_bind ?_
    have begun : Leaves parameter context
        (sought ++ [⟨.openWindow link, some window⟩] ++ [⟨.schema window, schema⟩])
        { context with collection := some window, draft := schema.map Draft.new } := by
      rw [Leaves, opening?_of_opened located looked]
      exact ⟨rfl, rfl⟩
    cases schema with
    | none => exact .throw begun
    | some schema => exact .pure begun

theorem writeDraft_composes {parameter : Parameter} (content : parameter.locator? = none) :
    Composes host parameter context (writeDraft parameter) := by
  refine .get_bind ?_
  cases held : context.draft with
  | none => exact .throw (leaves_of_unhanded rfl rfl (by simp [held]))
  | some draft =>
      dsimp only
      split
      · next written wrote =>
          refine .modify (leaves_of_unhanded rfl rfl ?_)
          simp [held, Draft.take, content, Parameter.write?, wrote]
      · next refused =>
          refine .throw (leaves_of_unhanded rfl rfl ?_)
          simp [held, Draft.take, content, Parameter.write?, refused]

theorem addParameter_composes (parameter : Parameter) :
    Composes host parameter context (addParameter host parameter) := by
  unfold addParameter
  cases located : parameter.locator? with
  | some locator => exact beginDraft_composes located
  | none => exact writeDraft_composes located

end Handlings

section Runs

variable (host : Host σ)

theorem turn_leaves (standing : Standing σ) (parameter : Parameter) :
    Leaves parameter standing.context (add.turn host standing parameter).said
      (add.take host standing parameter).context := by
  have composes : Composes host parameter standing.context
      ((add.procedure host).parameter parameter) := addParameter_composes parameter
  rcases turn_cases composes with ⟨_, ⟨_, left⟩ | ⟨_, _, left⟩⟩
  · exact left
  · exact left

/-- After some parameters the draft is the one there was, or a new one in the collection that was
opened last, and it has taken the parameters since. -/
theorem takes_leave (standing : Standing σ) (parameters : List Parameter) :
    let turns := add.turns host standing parameters
    let last := (parameters.foldl (add.take host) standing).context
    ((∀ turn ∈ turns, opening? turn.parameter turn.said = none) ∧
      last.collection = standing.context.collection ∧
      last.draft = standing.context.draft.map (parameters.foldl Draft.take)) ∨
    ∃ before opener after window schema, turns = before ++ opener :: after ∧
      opening? opener.parameter opener.said = some (window, schema) ∧
      (∀ turn ∈ after, opening? turn.parameter turn.said = none) ∧
      last.collection = some window ∧
      last.draft = schema.map fun schema =>
        (after.map Turn.parameter).foldl Draft.take (.new schema) := by
  induction parameters generalizing standing with
  | nil => exact Or.inl ⟨by simp [turns], rfl, by simp⟩
  | cons parameter parameters ih =>
      have first := turn_leaves host standing parameter
      rw [Leaves] at first
      intro turns last
      let turn := add.turn host standing parameter
      rcases ih (add.take host standing parameter) with
        ⟨closed, collection, draft⟩ |
          ⟨before, opener, after, window, schema, split, opened, closed, collection, draft⟩
      · cases opens : opening? parameter turn.said with
        | none =>
            rw [opens] at first
            refine Or.inl ⟨?_, collection.trans first.1, ?_⟩
            · intro other mem
              rcases List.mem_cons.mp mem with rfl | later
              · exact opens
              · exact closed other later
            · refine draft.trans ?_
              rw [first.2, Option.map_map]
              rfl
        | some opening =>
            rcases opening with ⟨window, schema⟩
            rw [opens] at first
            refine Or.inr ⟨[], turn, _, window, schema, rfl, opens, closed,
              collection.trans first.1, ?_⟩
            refine draft.trans ?_
            rw [first.2, Option.map_map, map_parameter_turns]
            rfl
      · exact Or.inr ⟨turn :: before, opener, after, window, schema, congrArg _ split, opened,
          closed, collection, draft⟩

/-- What is added is what parameters have written since the collection was opened. -/
theorem carryOut_add_content (parameters : List Parameter) (report : Report)
    (conversation : Conversation σ) :
    let first : Standing σ := ⟨{}, { report with verb := add.name }, conversation⟩
    let turns := add.turns host first parameters
    ∃ said,
      (add.carryOut host parameters report conversation).2.business =
        conversation.business ++ said ∧
      ∀ window draft answer, ⟨.addNote window draft, answer⟩ ∈ said →
        ∃ before opener after schema, turns = before ++ opener :: after ∧
          opening? opener.parameter opener.said = some (window, some schema) ∧
          (∀ turn ∈ after, opening? turn.parameter turn.said = none) ∧
          draft = (after.map Turn.parameter).foldl Draft.take (.new schema) := by
  intro first turns
  let last := parameters.foldl (add.take host) first
  have carried : add.carryOut host parameters report conversation = add.ending host last :=
    carryOut_of_standing rfl
  have unopened : Bound none first.context := ⟨rfl, rfl⟩
  rcases takes_bind host unopened parameters with ⟨waits, _, _⟩
  rcases takes_add host add first parameters with ⟨grown, _⟩
  have unadded (window : Window) (draft : Draft) (answer : Option NoteRef) :
      ⟨.addNote window draft, answer⟩ ∉ turns.flatMap Turn.said := by
    intro mem
    have other := waits _ mem
    simp [Request.isAddNote] at other
  rw [carried]
  cases held : last.context.draft with
  | none =>
      rcases ending_of_undrafted host held with ⟨quiet, _⟩
      refine ⟨turns.flatMap Turn.said, quiet.trans grown, ?_⟩
      intro window draft answer mem
      exact absurd mem (unadded window draft answer)
  | some draft =>
      rcases takes_leave host first parameters with
        ⟨_, _, undrafted⟩ |
          ⟨before, opener, after, window, schema, split, opened, closed, known, drafted⟩
      · have undrafted : last.context.draft = none := undrafted
        rw [held] at undrafted
        cases undrafted
      · have known : last.context.collection = some window := known
        have drafted : last.context.draft = _ := drafted
        rw [held] at drafted
        rcases Option.map_eq_some_iff.mp drafted.symm with ⟨schema, rfl, written⟩
        rcases ending_of_draft host known held with ⟨answer, added, _⟩
        refine ⟨turns.flatMap Turn.said ++ [⟨.addNote window draft, answer⟩], ?_, ?_⟩
        · rw [added, grown, List.append_assoc]
        · intro other content reply mem
          rcases List.mem_append.mp mem with early | final
          · exact absurd early (unadded other content reply)
          · simp only [List.mem_singleton, Exchange.mk.injEq, Request.addNote.injEq] at final
            rcases final with ⟨⟨rfl, rfl⟩, _⟩
            exact ⟨before, opener, after, schema, split, opened, closed, written.symm⟩

end Runs

section Order

variable {host : Host σ} {standing : Standing σ} {parameter one other : Parameter}

/-- Why a parameter for content cannot be written. -/
def unwritten (parameter : Parameter) (draft : Option Draft) : Failure :=
  if draft.isSome then .fieldSetFailed parameter.label else .missingContext parameter.label

theorem writeDraft_run (parameter : Parameter) (context : Context) (conversation : Conversation σ) :
    (writeDraft parameter : Handling σ Unit).run.run context conversation =
      match context.draft.bind parameter.write? with
      | some written => ((.ok (), { context with draft := some written }), conversation)
      | none => ((.error (unwritten parameter context.draft), context), conversation) := by
  rcases context with ⟨collection, draft, script, immediate⟩
  cases draft with
  | none => rfl
  | some draft =>
      have handled : (writeDraft parameter : Handling σ Unit).run.run
          ⟨collection, some draft, script, immediate⟩ conversation =
            (match parameter.write? draft with
              | some written =>
                modify fun context : Context => { context with draft := some written }
              | none => throw (Failure.fieldSetFailed parameter.label) :
              Handling σ Unit).run.run ⟨collection, some draft, script, immediate⟩ conversation :=
        rfl
      rw [handled, Option.bind_some]
      cases parameter.write? draft <;> rfl

theorem take_content (content : parameter.locator? = none) :
    add.take host standing parameter =
      match standing.context.draft.bind parameter.write? with
      | some written =>
        { standing with context := { standing.context with draft := some written } }
      | none =>
        let failure := unwritten parameter standing.context.draft
        { standing with
          report := standing.report.add (.failure failure)
          conversation := (Report.fail host failure standing.report standing.conversation).2 } := by
  have handled : (add.procedure host).parameter parameter = writeDraft parameter := by
    simp [procedure, addProcedure, addParameter, content]
  have ran := writeDraft_run parameter standing.context standing.conversation
  rw [← handled] at ran
  cases wrote : standing.context.draft.bind parameter.write? with
  | none =>
      rw [wrote] at ran
      exact take_of_error host add ran
  | some written =>
      rw [wrote] at ran
      exact take_of_ok host add ran

theorem written_of_unreported (content : parameter.locator? = none)
    (unreported : (add.turn host standing parameter).reported = []) :
    (standing.context.draft.bind parameter.write?).isSome := by
  cases wrote : standing.context.draft.bind parameter.write? with
  | some written => rfl
  | none =>
      -- what is not written has just been reported
      rw [turn, take_content content, wrote] at unreported
      simp at unreported

theorem write?_of_written {draft left : Draft} (wrote : one.write? draft = some left)
    (refused : other.write? draft = none) : other.write? left = none := by
  have same : left.schema = draft.schema := Slot.schema_of_write? wrote
  have equally := other.write?_isSome_of_schema same
  rw [refused] at equally
  simpa using equally

/-- Parameters for different parts of the note lead to the same, in either order, if one of them is
written. -/
theorem takes_swap (oneContent : one.locator? = none) (otherContent : other.locator? = none)
    (differ : one.slot? ≠ other.slot?) {draft : Draft} (held : standing.context.draft = some draft)
    (ordered : Draft.Ordered draft.fields)
    (written : (one.write? draft).isSome ∨ (other.write? draft).isSome) :
    add.take host (add.take host standing one) other =
      add.take host (add.take host standing other) one := by
  cases wroteOne : one.write? draft with
  | none =>
      cases wroteOther : other.write? draft with
      | none => simp [wroteOne, wroteOther] at written
      | some right =>
          have later : one.write? right = none := write?_of_written wroteOther wroteOne
          simp [take_content oneContent, take_content otherContent, held, wroteOne, wroteOther,
            later, unwritten]
  | some left =>
      cases wroteOther : other.write? draft with
      | none =>
          have later : other.write? left = none := write?_of_written wroteOne wroteOther
          simp [take_content oneContent, take_content otherContent, held, wroteOne, wroteOther,
            later, unwritten]
      | some right =>
          have same :=
            Parameter.write?_comm oneContent otherContent differ ordered wroteOne wroteOther
          have both : (one.write? right).isSome := by
            rw [one.write?_isSome_of_schema (Slot.schema_of_write? wroteOther), wroteOne]
            rfl
          rcases Option.isSome_iff_exists.mp both with ⟨final, wrote⟩
          simp [take_content oneContent, take_content otherContent, held, wroteOne, wroteOther,
            same, wrote]

theorem take_of_unwritten (inert : host.AlertsInert) (content : parameter.locator? = none)
    (refused : standing.context.draft.bind parameter.write? = none) :
    (add.take host standing parameter).context = standing.context ∧
      Conversation.Agree host (add.take host standing parameter).conversation
        standing.conversation := by
  rw [take_content content, refused]
  exact ⟨rfl, Report.fail_agree_self inert _ _ _⟩

/-- Parameters of which neither is written agree in either order, if the host does not answer by
what it was alerted of. -/
theorem takes_swap_agree (inert : host.AlertsInert) (oneContent : one.locator? = none)
    (otherContent : other.locator? = none)
    (oneRefused : standing.context.draft.bind one.write? = none)
    (otherRefused : standing.context.draft.bind other.write? = none) :
    let left := add.take host (add.take host standing one) other
    let right := add.take host (add.take host standing other) one
    Standing.Agree host left.report.entries right.report.entries left right := by
  intro left right
  rcases take_of_unwritten inert oneContent oneRefused with ⟨sameOne, agreeOne⟩
  rcases take_of_unwritten inert otherContent otherRefused with ⟨sameOther, agreeOther⟩
  rw [← sameOther] at oneRefused
  rw [← sameOne] at otherRefused
  rcases take_of_unwritten inert otherContent otherRefused with ⟨sameLeft, agreeLeft⟩
  rcases take_of_unwritten inert oneContent oneRefused with ⟨sameRight, agreeRight⟩
  refine ⟨?_, ?_, [], by simp, by simp⟩
  · exact (sameLeft.trans sameOne).trans (sameRight.trans sameOther).symm
  · exact (agreeLeft.trans agreeOne).trans (agreeRight.trans agreeOther).symm

theorem ordered_of_takes (parameters : List Parameter) (report : Report)
    (conversation : Conversation σ) {draft : Draft}
    (held : (parameters.foldl (add.take host) ⟨{}, report, conversation⟩).context.draft =
      some draft) : Draft.Ordered draft.fields := by
  rcases takes_leave host ⟨{}, report, conversation⟩ parameters with
    ⟨_, _, undrafted⟩ | ⟨_, _, after, _, schema, _, _, _, _, drafted⟩
  · rw [held] at undrafted
    cases undrafted
  · rw [held] at drafted
    rcases Option.map_eq_some_iff.mp drafted.symm with ⟨schema, _, rfl⟩
    exact (Draft.composed_takes schema _).ordered

/-- Parameters for different parts of the note may change places where one of them is written. Where
neither is, they may if the host does not answer by what it was alerted of. -/
theorem carryOut_add_swap (earlier later : List Parameter) (report : Report)
    (conversation : Conversation σ) (oneContent : one.locator? = none)
    (otherContent : other.locator? = none) (differ : one.slot? ≠ other.slot?) :
    let here : Standing σ :=
      earlier.foldl (add.take host) ⟨{}, { report with verb := add.name }, conversation⟩
    ((add.turn host here one).reported = [] ∨ (add.turn host here other).reported = [] ∨
      host.AlertsInert) →
    (add.carryOut host (earlier ++ one :: other :: later) report conversation).2.business =
      (add.carryOut host (earlier ++ other :: one :: later) report conversation).2.business := by
  intro here heard
  have carried (first second : Parameter) :
      add.carryOut host (earlier ++ first :: second :: later) report conversation =
        add.ending host (later.foldl (add.take host)
          (add.take host (add.take host here first) second)) := by
    apply carryOut_of_standing
    rw [standing_append]
    rfl
  rw [carried, carried]
  by_cases written : (here.context.draft.bind one.write?).isSome ∨
      (here.context.draft.bind other.write?).isSome
  · cases held : here.context.draft with
    | none => simp [held] at written
    | some draft =>
        rw [held] at written
        rw [takes_swap oneContent otherContent differ held (ordered_of_takes _ _ _ held) written]
  · simp only [not_or, Bool.not_eq_true, Option.isSome_eq_false_iff, Option.isNone_iff_eq_none]
      at written
    rcases written with ⟨oneRefused, otherRefused⟩
    rcases heard with oneWritten | otherWritten | inert
    · simpa [oneRefused] using written_of_unreported oneContent oneWritten
    · simpa [otherRefused] using written_of_unreported otherContent otherWritten
    · have agree := takes_swap_agree inert oneContent otherContent oneRefused otherRefused
      rcases ending_agree inert (takes_agree inert agree later) with ⟨ended, _⟩
      exact ended.business

/-- The note that is added has the content that parameters have written since its collection was
opened, and it is the only draft with this content. Parameters for different parts of the note may
change places. -/
theorem carryOut_add_composes (host : Host σ) (parameters : List Parameter) (report : Report)
    (conversation : Conversation σ) :
    let first : Standing σ := ⟨{}, { report with verb := add.name }, conversation⟩
    let ended := add.carryOut host parameters report conversation
    (∃ said, ended.2.business = conversation.business ++ said ∧
      ∀ window draft answer, ⟨.addNote window draft, answer⟩ ∈ said →
        ∃ before opener after schema,
          add.turns host first parameters = before ++ opener :: after ∧
          opening? opener.parameter opener.said = some (window, some schema) ∧
          (∀ turn ∈ after, opening? turn.parameter turn.said = none) ∧
          ∀ other, Draft.Composed schema (after.map Turn.parameter) other ↔ other = draft) ∧
    ∀ earlier one other later, parameters = earlier ++ one :: other :: later →
      one.slot?.isSome → other.slot?.isSome → one.slot? ≠ other.slot? →
      let here := earlier.foldl (add.take host) first
      ((add.turn host here one).reported = [] ∨ (add.turn host here other).reported = [] ∨
        host.AlertsInert) →
      (add.carryOut host (earlier ++ other :: one :: later) report conversation).2.business =
        ended.2.business := by
  intro first ended
  constructor
  · rcases carryOut_add_content host parameters report conversation with ⟨said, grown, adds⟩
    refine ⟨said, grown, ?_⟩
    intro window draft answer mem
    rcases adds window draft answer mem with
      ⟨before, opener, after, schema, split, opened, closed, rfl⟩
    have composed := Draft.composed_takes schema (after.map Turn.parameter)
    refine ⟨before, opener, after, schema, split, opened, closed, ?_⟩
    intro other
    constructor
    · intro another
      exact another.unique composed
    · rintro rfl
      exact composed
  · intro earlier one other later split oneSlot otherSlot differ here heard
    have content {parameter : Parameter} (slot : parameter.slot?.isSome) :
        parameter.locator? = none := by
      rw [← Option.not_isSome_iff_eq_none]
      intro located
      simp [Parameter.slot?_of_locator located] at slot
    subst split
    exact (carryOut_add_swap earlier later report conversation (content oneSlot)
      (content otherSlot) differ heard).symm

/-- A note with a title and a tag, which may be given in either order. -/
theorem carryOut_add_composes_tagged :
    let state : CatalogueState :=
      { catalogue := { shortcuts := [("inbox", "/inbox")] }, preferences := {},
        lastSelected := none, tree := .ofWorking [] }
    let draft : Draft :=
      { schema := Catalogue.standardSchema, title := some "Call", body := none, date := none,
        fields := [("Tags", "home")] }
    let ended := add.carryOut catalogueHost
      [⟨"shortcut", "inbox"⟩, ⟨"tags", "home"⟩, ⟨"name", "Call"⟩] { alerting := true } { state }
    let swapped := add.carryOut catalogueHost
      [⟨"shortcut", "inbox"⟩, ⟨"name", "Call"⟩, ⟨"tags", "home"⟩] { alerting := true } { state }
    (∃ window answer, ⟨.addNote window draft, answer⟩ ∈ ended.2.business) ∧
      (∃ schema parameters, ∀ other, Draft.Composed schema parameters other ↔ other = draft) ∧
      swapped.2.business = ended.2.business := by
  intro state draft ended swapped
  have asked :
      (add.carryOut catalogueHost [⟨"shortcut", "inbox"⟩, ⟨"tags", "home"⟩, ⟨"name", "Call"⟩]
        { alerting := true }
        { state :=
            { catalogue := { shortcuts := [("inbox", "/inbox")] }, preferences := {},
              lastSelected := none, tree := .ofWorking [] } }).2.business.map Exchange.request =
        [.multiLink "inbox", .shortcutLink "inbox",
          .openWindow ⟨"file:///inbox", "/inbox", .unknown⟩,
          .schema ⟨1, ⟨"file:///inbox", "/inbox", .unknown⟩⟩,
          .addNote ⟨1, ⟨"file:///inbox", "/inbox", .unknown⟩⟩
            { schema := Catalogue.standardSchema, title := some "Call", body := none,
              date := none, fields := [("Tags", "home")] }] := rfl
  have heard :
      (add.turn catalogueHost
        ([⟨"shortcut", "inbox"⟩].foldl (add.take catalogueHost)
          ⟨{}, { alerting := true, verb := add.name },
            { state :=
                { catalogue := { shortcuts := [("inbox", "/inbox")] }, preferences := {},
                  lastSelected := none, tree := .ofWorking [] } }⟩)
        ⟨"tags", "home"⟩).reported = [] := rfl
  have differ : (⟨"tags", "home"⟩ : Parameter).slot? ≠ (⟨"name", "Call"⟩ : Parameter).slot? := by
    decide
  rcases carryOut_add_composes catalogueHost
    [⟨"shortcut", "inbox"⟩, ⟨"tags", "home"⟩, ⟨"name", "Call"⟩] { alerting := true } { state } with
    ⟨⟨said, grown, adds⟩, swaps⟩
  have requested := List.mem_of_getLast? (congrArg List.getLast? asked)
  rcases List.mem_map.mp requested with ⟨⟨request, answer⟩, mem, rfl⟩
  have there : ⟨_, answer⟩ ∈ said := by
    rw [grown] at mem
    exact mem
  rcases adds _ _ answer there with ⟨_, _, after, schema, _, _, _, composed⟩
  exact ⟨⟨_, answer, mem⟩, ⟨schema, _, composed⟩,
    swaps [⟨"shortcut", "inbox"⟩] _ _ [] rfl rfl rfl differ (Or.inl heard)⟩

end Order

end CommandUrl.Verb

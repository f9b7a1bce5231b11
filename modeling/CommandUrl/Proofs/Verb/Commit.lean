import CommandUrl.Proofs.Verb.Guidance
import CommandUrl.Proofs.Verb.Turn

/-!
# Adding a note

The verb `add` writes a draft and adds it at the end. Which collection the note
goes to and which schema it is bound to are two parts of the context, and they
are set at different times: the window when the collection is opened, the draft
when its schema is known. What keeps them in step is the opening, which is the
window that a parameter was handed together with the schema that the notes gave
for it. Between two parameters the context is bound to the last opening, and so
a note is added exactly if the last collection that was opened has a schema, and
it is added there.
-/

namespace CommandUrl

variable {σ : Type}

/-- Requests to add a note. -/
def Request.isAddNote : Request → Bool
  | addNote .. => true
  | _ => false

/-- The schema that the notes gave for a window. -/
def Exchange.schemaOf? (window : Window) : Exchange → Option Schema
  | ⟨.schema other, answer⟩ => if other = window then answer else none
  | _ => none

namespace Verb

/-- A collection parameter that was handed a window opens it, under the schema that it was given for
the window, if any. -/
def opening? (parameter : Parameter) (said : List Exchange) : Option (Window × Option Schema) :=
  parameter.locator?.bind fun _ =>
    (add.inForce? said).map fun window => (window, said.findSome? (Exchange.schemaOf? window))

/-- The collection and the draft of a context are those of an opening. -/
structure Bound (opened : Option (Window × Option Schema)) (context : Context) : Prop where
  collection : context.collection = opened.map Prod.fst
  draft : context.draft.map Draft.schema = opened.bind Prod.snd

/-- What is reported of a note that was to be added. -/
def addedEntry : Option NoteRef → ReportEntry
  | some note => .remark ("Added new Note titled " ++ note.title)
  | none => .failure (.noteCommitFailed "Note could not be added")

section Openings

variable {parameter : Parameter} {locator : Locator} {sought : List Exchange}

theorem opening?_of_unhanded {said : List Exchange} (unhanded : add.inForce? said = none) :
    opening? parameter said = none := by
  simp [opening?, unhanded]

theorem schemaOf?_of_lookups (looked : Lookups [] sought) (window : Window) :
    sought.findSome? (Exchange.schemaOf? window) = none := by
  rcases looked with ⟨said, rfl, lookups⟩
  rw [List.findSome?_eq_none_iff]
  intro exchange mem
  have lookup := lookups exchange mem
  rcases exchange with ⟨request, answer⟩
  cases request <;> first | rfl | simp [Request.isLookup] at lookup

theorem opening?_of_opened (located : parameter.locator? = some locator)
    (looked : Lookups [] sought) (link : Link) (window : Window) (schema : Option Schema) :
    opening? parameter (sought ++ [⟨.openWindow link, some window⟩] ++ [⟨.schema window, schema⟩]) =
      some (window, schema) := by
  simp only [opening?, located, Option.bind_some, Option.map_eq_some_iff]
  refine ⟨window, ?_, ?_⟩
  · rw [inForce?_ask (handed?_of_window? rfl)]
    exact inForce?_of_opened (by simp) sought link window
  · simp only [List.findSome?_append, schemaOf?_of_lookups looked]
    cases schema <;> simp [Exchange.schemaOf?]

end Openings

section Handlings

variable {host : Host σ} {opened : Option (Window × Option Schema)} {context : Context}

/-- The handling of a parameter adds no note and does not fail as if it had tried, and it leaves the
context bound to what it opened, or else to what was opened before. -/
def Binds (host : Host σ) (opened : Option (Window × Option Schema)) (parameter : Parameter)
    (context : Context) (handling : Handling σ Unit) : Prop :=
  Handling.Follows host (fun _ request => request.isAddNote = false)
    (fun said failure left =>
      failure.kind ≠ .commit ∧ Bound ((opening? parameter said).or opened) left)
    (fun said _ left => Bound ((opening? parameter said).or opened) left) [] context handling

theorem Bound.of_unhanded (bound : Bound opened context) {parameter : Parameter}
    {said : List Exchange} (unhanded : add.inForce? said = none) :
    Bound ((opening? parameter said).or opened) context := by
  rw [opening?_of_unhanded unhanded, Option.none_or]
  exact bound

theorem beginDraft_binds (bound : Bound opened context) {parameter : Parameter} {locator : Locator}
    (located : parameter.locator? = some locator) :
    Binds host opened parameter context (beginDraft host locator) := by
  refine .establish_bind ?_ (fun _ _ => rfl) ?_ ?_ ?_
  · intro history request lookup
    cases request <;> first | rfl | simp [Request.isLookup] at lookup
  · intro sought _ looked
    exact ⟨by simp [Failure.kind], bound.of_unhanded (inForce?_of_lookups looked)⟩
  · intro sought link _ looked
    exact ⟨by simp [Failure.kind], bound.of_unhanded (inForce?_of_refused looked)⟩
  · intro sought link window looked
    refine .ask_bind rfl fun schema => .modify_bind ?_
    have rebound : Bound ((opening? parameter (sought ++ [⟨.openWindow link, some window⟩] ++
        [⟨.schema window, schema⟩])).or opened)
        { context with collection := some window, draft := schema.map Draft.new } := by
      rw [opening?_of_opened located looked]
      refine ⟨rfl, ?_⟩
      cases schema <;> rfl
    cases schema with
    | none => exact .throw ⟨by simp [Failure.kind], rebound⟩
    | some schema => exact .pure rebound

theorem Slot.schema_of_write? {slot : Slot} {draft written : Draft} {value : String}
    (wrote : slot.write? draft value = some written) : written.schema = draft.schema := by
  cases slot with
  | title | body | date =>
      cases wrote
      rfl
  | field label =>
      simp only [Slot.write?, Draft.setField?, Option.map_eq_some_iff] at wrote
      rcases wrote with ⟨_, _, rfl⟩
      rfl

theorem writeDraft_binds (bound : Bound opened context) (parameter : Parameter) :
    Binds host opened parameter context (writeDraft parameter) := by
  refine .get_bind ?_
  cases held : context.draft with
  | none => exact .throw ⟨by simp [Failure.kind], bound.of_unhanded rfl⟩
  | some draft =>
      dsimp only
      split
      · next written wrote =>
          have rebound : Bound opened { context with draft := some written } := by
            refine ⟨bound.collection, ?_⟩
            rw [← bound.draft, held, Option.map_some, Option.map_some,
              Slot.schema_of_write? wrote]
          exact .modify (rebound.of_unhanded rfl)
      · exact .throw ⟨by simp [Failure.kind], bound.of_unhanded rfl⟩

theorem addParameter_binds (bound : Bound opened context) (parameter : Parameter) :
    Binds host opened parameter context (addParameter host parameter) := by
  unfold addParameter
  cases located : parameter.locator? with
  | some locator => exact beginDraft_binds bound located
  | none => exact writeDraft_binds bound parameter

end Handlings

section Runs

variable (host : Host σ) {opened : Option (Window × Option Schema)} {standing : Standing σ}

/-- What was opened last in some turns. -/
def lastOpening? (turns : List Turn) : Option (Window × Option Schema) :=
  (turns.filterMap fun turn => opening? turn.parameter turn.said).getLast?

theorem lastOpening?_cons (turn : Turn) (turns : List Turn) :
    lastOpening? (turn :: turns) =
      (lastOpening? turns).or (opening? turn.parameter turn.said) := by
  unfold lastOpening?
  rw [List.filterMap_cons]
  cases opening? turn.parameter turn.said with
  | none => rw [Option.or_none]
  | some opening =>
      rw [List.getLast?_cons]
      cases (turns.filterMap fun turn => opening? turn.parameter turn.said).getLast? <;> rfl

theorem turn_binds (bound : Bound opened standing.context) (parameter : Parameter) :
    let turn := add.turn host standing parameter
    (∀ exchange ∈ turn.said, exchange.request.isAddNote = false) ∧
      (∀ entry ∈ turn.reported, ∃ failure, entry = .failure failure ∧ failure.kind ≠ .commit) ∧
      Bound ((opening? parameter turn.said).or opened) turn.left := by
  intro turn
  have binds : Binds host opened parameter standing.context
      ((add.procedure host).parameter parameter) := addParameter_binds bound parameter
  rcases turn_cases binds with ⟨kept, cases⟩
  refine ⟨?_, ?_⟩
  · intro exchange mem
    rcases List.append_of_mem mem with ⟨earlier, later, split⟩
    exact kept earlier exchange later split
  · rcases cases with ⟨silent, rebound⟩ | ⟨failure, reported, other, rebound⟩
    · refine ⟨?_, rebound⟩
      intro entry mem
      rw [silent] at mem
      cases mem
    · refine ⟨?_, rebound⟩
      intro entry mem
      rw [reported, List.mem_singleton] at mem
      exact ⟨failure, mem, other⟩

/-- Before the end nothing is added, nothing is reported of an addition, and the context is bound to
what was opened last. -/
theorem takes_bind (bound : Bound opened standing.context) (parameters : List Parameter) :
    let turns := add.turns host standing parameters
    (∀ exchange ∈ turns.flatMap Turn.said, exchange.request.isAddNote = false) ∧
      (∀ entry ∈ turns.flatMap Turn.reported,
        ∃ failure, entry = .failure failure ∧ failure.kind ≠ .commit) ∧
      Bound ((lastOpening? turns).or opened)
        (parameters.foldl (add.take host) standing).context := by
  -- the next parameters start bound to what this one opened, or to what was opened before it
  induction parameters generalizing opened standing with
  | nil => exact ⟨by simp [turns], by simp [turns], bound⟩
  | cons parameter parameters ih =>
      rcases turn_binds host bound parameter with ⟨waits, fails, rebound⟩
      have next : Bound _ (add.take host standing parameter).context := rebound
      rcases ih next with ⟨laterWait, laterFail, last⟩
      refine ⟨?_, ?_, ?_⟩
      · intro exchange mem
        rw [turns, List.flatMap_cons] at mem
        rcases List.mem_append.mp mem with first | later
        · exact waits exchange first
        · exact laterWait exchange later
      · intro entry mem
        rw [turns, List.flatMap_cons] at mem
        rcases List.mem_append.mp mem with first | later
        · exact fails entry first
        · exact laterFail entry later
      · rw [turns, lastOpening?_cons, Option.or_assoc]
        exact last

theorem ask_business {request : Request} (discreet : request.isAlert = false)
    (conversation : Conversation σ) :
    (Dialogue.ask host request conversation).2.business = conversation.business ++
      [⟨request, (Dialogue.ask host request conversation).1⟩] := by
  simp [Dialogue.ask, Conversation.business, List.filter_append, discreet]

theorem ending_business (standing : Standing σ) :
    (add.ending host standing).2.business =
      (commitDraft host standing.context standing.conversation).2.business :=
  conclude_business _ _ _

theorem ending_entries (standing : Standing σ) :
    (add.ending host standing).1.2.entries = standing.report.entries ++
      (commitDraft host standing.context standing.conversation).1.toList :=
  conclude_entries _ _ _

/-- The draft of the context is what is added at the end, and it is added to the collection. -/
theorem ending_of_draft {window : Window} {draft : Draft}
    (known : standing.context.collection = some window)
    (held : standing.context.draft = some draft) :
    ∃ answer,
      (add.ending host standing).2.business =
        standing.conversation.business ++ [⟨.addNote window draft, answer⟩] ∧
      (add.ending host standing).1.2.entries = standing.report.entries ++ [addedEntry answer] := by
  let asked := Dialogue.ask host (.addNote window draft) standing.conversation
  have committed : commitDraft host standing.context standing.conversation =
      (some (addedEntry asked.1), asked.2) := by
    simp only [commitDraft, known, held, bind, StateT.bind, asked]
    rcases Dialogue.ask host (.addNote window draft) standing.conversation with ⟨_ | note, later⟩
    · rfl
    · rfl
  refine ⟨asked.1, ?_, ?_⟩
  · rw [ending_business, committed]
    exact ask_business host rfl standing.conversation
  · rw [ending_entries, committed]
    rfl

theorem ending_of_schema {window : Window} {schema : Schema}
    (bound : Bound (some (window, some schema)) standing.context) :
    ∃ draft answer, draft.schema = schema ∧
      (add.ending host standing).2.business =
        standing.conversation.business ++ [⟨.addNote window draft, answer⟩] ∧
      (add.ending host standing).1.2.entries = standing.report.entries ++ [addedEntry answer] := by
  rcases Option.map_eq_some_iff.mp bound.draft with ⟨draft, held, drafted⟩
  rcases ending_of_draft host bound.collection held with ⟨answer, added, entered⟩
  exact ⟨draft, answer, drafted, added, entered⟩

theorem ending_of_undrafted (undrafted : standing.context.draft = none) :
    (add.ending host standing).2.business = standing.conversation.business ∧
      (add.ending host standing).1.2.entries = standing.report.entries := by
  have nothing : commitDraft host standing.context standing.conversation =
      (none, standing.conversation) := by
    simp only [commitDraft, undrafted]
    cases standing.context.collection <;> rfl
  rw [ending_business, ending_entries, nothing]
  exact ⟨rfl, List.append_nil _⟩

theorem ending_without_schema (bound : Bound opened standing.context)
    (without : opened.bind Prod.snd = none) :
    (add.ending host standing).2.business = standing.conversation.business ∧
      (add.ending host standing).1.2.entries = standing.report.entries := by
  have undrafted : standing.context.draft = none := by
    rw [← Option.map_eq_none_iff, bound.draft]
    exact without
  exact ending_of_undrafted host undrafted

/-- A note is added after everything else, and exactly if the last collection that was opened has a
schema. It is added to that collection and bound to that schema, and what came of it is the last
thing that is reported. -/
theorem carryOut_add_commits (parameters : List Parameter) (report : Report)
    (conversation : Conversation σ) :
    let first : Standing σ := ⟨{}, { report with verb := add.name }, conversation⟩
    let turns := add.turns host first parameters
    let said := turns.flatMap Turn.said
    let reported := turns.flatMap Turn.reported
    let ended := add.carryOut host parameters report conversation
    (∀ exchange ∈ said, exchange.request.isAddNote = false) ∧
    (∀ entry ∈ reported, ∃ failure, entry = .failure failure ∧ failure.kind ≠ .commit) ∧
    match lastOpening? turns with
    | some (window, some schema) => ∃ draft answer, draft.schema = schema ∧
        ended.2.business = conversation.business ++ said ++ [⟨.addNote window draft, answer⟩] ∧
        ended.1.2.entries = report.entries ++ reported ++ [addedEntry answer]
    | _ =>
        ended.2.business = conversation.business ++ said ∧
        ended.1.2.entries = report.entries ++ reported := by
  intro first turns said reported ended
  let last := parameters.foldl (add.take host) first
  have carried : ended = add.ending host last := carryOut_of_standing rfl
  have unopened : Bound none first.context := ⟨rfl, rfl⟩
  rcases takes_bind host unopened parameters with ⟨waits, fails, bound⟩
  rw [Option.or_none] at bound
  rcases takes_add host add first parameters with ⟨grown, longer⟩
  refine ⟨waits, fails, ?_⟩
  rw [carried]
  split
  · next window schema opened =>
      rw [opened] at bound
      rcases ending_of_schema host bound with ⟨draft, answer, drafted, added, entered⟩
      exact ⟨draft, answer, drafted, added.trans (by rw [grown]), entered.trans (by rw [longer])⟩
  · next without =>
      have unbound : (lastOpening? turns).bind Prod.snd = none := by
        rcases opened : lastOpening? turns with _ | ⟨window, _ | schema⟩
        · rfl
        · rfl
        · exact absurd opened (without window schema)
      rcases ending_without_schema host bound unbound with ⟨quiet, same⟩
      exact ⟨quiet.trans grown, same.trans longer⟩

end Runs

end Verb

end CommandUrl

import CommandUrl.Host.Catalogue
import CommandUrl.Proofs.Locator.Sources
import CommandUrl.Proofs.Verb.Progress
import CommandUrl.Proofs.Verb.Run

/-!
# Links that are followed

A link need not come from a command. The application may open one itself and have a
note focused in it, or follow a link from one note to another, and both are written
without the verbs. They do what a command would do: the first asks what the verb
`open` asks once it has found the link, and the second opens the collection that its
shortcut is resolved to.

Where a step fails, the verb goes on to its next parameter and reports, and the
others break off. Nothing is asked after a failure all the same, since the parameter
that names a note needs the collection that was not opened.
-/

namespace CommandUrl

variable {σ : Type} {host : Host σ}

@[simp]
theorem Report.add_alarm (report : Report) (entry : ReportEntry) :
    (report.add entry).alarm = report.alarm :=
  rfl

namespace Locator

variable {shortcut : String}

theorem link_goesOn (host : Host σ) (locator : Locator) (conversation : Conversation σ) :
    ∃ said, Conversation.GoesOn host (fun request => request.isLookup) conversation
      (locator.link host conversation).2 said := by
  have seeks : Seeks host (fun _ request => request.isLookup) (locator.link host) :=
    seeks_link (fun _ _ lookup => lookup) locator
  rcases (seeks []).said conversation with ⟨said, talk, _⟩
  exact ⟨said, .ofSaid talk⟩

/-- Resolving a locator looks for a link and opens one at most. -/
theorem resolve_goesOn (host : Host σ) (locator : Locator) (conversation : Conversation σ) :
    ∃ said, Conversation.GoesOn host
      (fun request => request.isLookup ∨ ∃ link, request = .openWindow link) conversation
      (locator.resolve host conversation).2 said := by
  have follows : Dialogue.Follows host
      (fun _ request => request.isLookup ∨ ∃ link, request = .openWindow link) (fun _ _ => True) []
      (locator.resolve host) := by
    refine resolve_follows_of_link (seeks_link (fun _ _ => Or.inl) locator [])
      (fun _ link => Or.inr ⟨link, rfl⟩) ?_ ?_ ?_
    all_goals
      intros
      trivial
  rcases follows.said conversation with ⟨said, talk, _⟩
  exact ⟨said, .ofSaid talk⟩

theorem orElse_none (source : Dialogue σ (Option Link)) : orElse source (pure none) = source := by
  calc orElse source (pure none) = source >>= pure := by
        apply bind_congr
        intro found
        cases found <;> rfl
    _ = source := bind_pure source

theorem link_of_shortcut (host : Host σ) (called : shortcut ≠ "") :
    Locator.link host { shortcut := some shortcut } = shortcutLink host shortcut := by
  have unnamed : literalLink host none = pure none := rfl
  simp only [Locator.link, consult, unnamed, orElse_none]
  simp [called]

end Locator

namespace Verb

variable {context : Context} {conversation later : Conversation σ} {parameter : Parameter}
  {locator : Locator} {window : Window} {id : String} {failure : Failure}

theorem openParameter_of_locator (known : parameter.locator? = some locator) :
    openParameter host parameter = Handling.establish host locator >>= fun _ => pure () := by
  simp only [openParameter, known]

theorem run_openLocator_of_ok (known : parameter.locator? = some locator)
    (resolved : locator.resolve host conversation = (.ok window, later)) :
    (openParameter host parameter).run.run context conversation =
      ((.ok (), { context with collection := some window }), later) := by
  rw [openParameter_of_locator known,
    Handling.run_bind_of_ok _ (Handling.run_establish_of_ok resolved)]
  rfl

theorem run_openLocator_of_error (known : parameter.locator? = some locator)
    (resolved : locator.resolve host conversation = (.error failure, later)) :
    (openParameter host parameter).run.run context conversation =
      ((.error failure, context), later) := by
  rw [openParameter_of_locator known,
    Handling.run_bind_of_error _ (Handling.run_establish_of_error resolved)]

theorem openParameter_id (host : Host σ) (id : String) :
    openParameter host ⟨"id", id⟩ =
      (Handling.requireCollection "id" >>= fun window =>
        Handling.ask host (.noteKnownAs window id) >>= fun found =>
          Handling.focusFound host window found (noNoteWithId id)) :=
  rfl

theorem run_openId_of_none (host : Host σ) (id : String) (held : context.collection = none) :
    (openParameter host ⟨"id", id⟩).run.run context conversation =
      ((.error (.missingContext "id"), context), conversation) := by
  rw [openParameter_id,
    Handling.run_bind_of_error _ (Handling.run_requireCollection_of_none held)]

theorem run_openId_of_some {found : Option NoteRef} (held : context.collection = some window)
    (searched : Dialogue.ask host (.noteKnownAs window id) conversation = (found, later)) :
    (openParameter host ⟨"id", id⟩).run.run context conversation =
      (Handling.focusFound host window found (noNoteWithId id)).run.run context later := by
  have told : (Handling.ask host (.noteKnownAs window id)).run.run context conversation =
      ((.ok found, context), later) := Handling.run_lift_of_run searched
  rw [openParameter_id, Handling.run_bind_of_ok _ (Handling.run_requireCollection_of_some held),
    Handling.run_bind_of_ok _ told]

section Take

variable {standing : Standing σ}

theorem take_openLocator_of_ok (known : parameter.locator? = some locator)
    (resolved : locator.resolve host standing.conversation = (.ok window, later)) :
    openNote.take host standing parameter =
      { standing with
        context := { standing.context with collection := some window }, conversation := later } :=
  take_of_ok host openNote (run_openLocator_of_ok known resolved)

theorem take_openLocator_of_error (known : parameter.locator? = some locator)
    (resolved : locator.resolve host standing.conversation = (.error failure, later)) :
    openNote.take host standing parameter =
      { standing with
        report := standing.report.add (.failure failure),
        conversation := (Report.fail host failure standing.report later).2 } :=
  take_of_error host openNote (run_openLocator_of_error known resolved)

theorem take_openId_of_none (held : standing.context.collection = none) :
    openNote.take host standing ⟨"id", id⟩ =
      { standing with
        report := standing.report.add (.failure (.missingContext "id")),
        conversation :=
          (Report.fail host (.missingContext "id") standing.report standing.conversation).2 } :=
  take_of_error host openNote (run_openId_of_none host id held)

theorem take_openId_of_missing (held : standing.context.collection = some window)
    (missing : Dialogue.ask host (.noteKnownAs window id) standing.conversation = (none, later)) :
    openNote.take host standing ⟨"id", id⟩ =
      { standing with
        report := standing.report.add (.failure (.noteNotFound (noNoteWithId id))),
        conversation :=
          (Report.fail host (.noteNotFound (noNoteWithId id)) standing.report later).2 } :=
  take_of_error host openNote (run_openId_of_some held missing)

theorem take_openId_of_found {note : NoteRef} (held : standing.context.collection = some window)
    (there : Dialogue.ask host (.noteKnownAs window id) standing.conversation =
      (some note, later)) :
    let next := openNote.take host standing ⟨"id", id⟩
    next.report = standing.report ∧ next.conversation.exchanges =
      (Dialogue.ask host (.focus window { origin := .command, note }) later).2.exchanges := by
  intro next
  rcases Handling.run_focus host window note standing.context later with ⟨final, ran, told⟩
  have reached : next = _ :=
    take_of_ok host openNote ((run_openId_of_some held there).trans ran)
  rw [reached]
  exact ⟨rfl, told⟩

end Take

end Verb

namespace Interpreter

variable {conversation sought opened looked : Conversation σ} {link : Link} {id : String}
  {window : Window}

theorem openLink_of_refused
    (refused : Dialogue.ask host (.openWindow link) conversation = (none, opened)) :
    openLink host link id conversation = (false, opened) := by
  simp only [openLink, bind, StateT.bind, refused]
  rfl

theorem openLink_of_missing (named : id ≠ "")
    (opens : Dialogue.ask host (.openWindow link) conversation = (some window, opened))
    (missing : Dialogue.ask host (.noteKnownAs window id) opened = (none, looked)) :
    openLink host link id conversation = (false, looked) := by
  have given : id.isEmpty = false := by simpa using named
  simp only [openLink, bind, StateT.bind, opens, given, Bool.false_eq_true, if_false, missing]
  rfl

theorem openLink_of_found {note : NoteRef} (named : id ≠ "")
    (opens : Dialogue.ask host (.openWindow link) conversation = (some window, opened))
    (there : Dialogue.ask host (.noteKnownAs window id) opened = (some note, looked)) :
    openLink host link id conversation =
      (true, (Dialogue.ask host (.focus window { origin := .command, note }) looked).2) := by
  have given : id.isEmpty = false := by simpa using named
  simp only [openLink, bind, StateT.bind, opens, given, Bool.false_eq_true, if_false, there]
  rfl

variable {standing : Standing σ}

/-- Where the collection of a link is open, taking an identifier does what is left of opening the
link, and raises an alarm if the note is not found. -/
theorem take_openId_completes (named : id ≠ "")
    (opens : Dialogue.ask host (.openWindow link) sought = (some window, standing.conversation))
    (held : standing.context.collection = some window) :
    let next := Verb.openNote.take host standing ⟨"id", id⟩
    let direct := openLink host link id sought
    ∃ failures, next.report.entries = standing.report.entries ++ failures.map .failure ∧
      next.conversation.exchanges =
        direct.2.exchanges ++ failures.flatMap standing.report.alarm ∧
      (direct.1 = true ↔ failures = []) := by
  intro next direct
  rcases searched : Dialogue.ask host (.noteKnownAs window id) standing.conversation with
    ⟨_ | note, looked⟩
  · have broken : direct = _ := openLink_of_missing named opens searched
    have reached : next = _ := Verb.take_openId_of_missing held searched
    rw [broken, reached]
    refine ⟨[.noteNotFound (Verb.noNoteWithId id)], rfl, ?_, by simp⟩
    simp [Report.fail_exchanges]
  · have complete : direct = _ := openLink_of_found named opens searched
    rcases Verb.take_openId_of_found held searched with ⟨silent, told⟩
    rw [complete]
    refine ⟨[], ?_, ?_, by simp⟩
    · simp [next, silent]
    · simpa using told

/-- The verb `open` with a collection and the identifier of a note says what opening the link of the
collection says, and then raises an alarm for what went wrong, if something did. -/
theorem takes_openLink {parameter : Parameter} {locator : Locator}
    (known : parameter.locator? = some locator)
    (found : locator.link host standing.conversation = (some link, sought)) (named : id ≠ "")
    (held : standing.context.collection = none) :
    let last := [parameter, ⟨"id", id⟩].foldl (Verb.openNote.take host) standing
    let direct := openLink host link id sought
    ∃ failures, last.report.entries = standing.report.entries ++ failures.map .failure ∧
      last.conversation.exchanges =
        direct.2.exchanges ++ failures.flatMap standing.report.alarm ∧
      (direct.1 = true ↔ failures = []) := by
  intro last direct
  have taken : last =
      Verb.openNote.take host (Verb.openNote.take host standing parameter) ⟨"id", id⟩ := rfl
  rcases opens : Dialogue.ask host (.openWindow link) sought with ⟨_ | window, opened⟩
  · have broken : direct = _ := openLink_of_refused opens
    have first := Verb.take_openLocator_of_error known (Locator.resolve_of_refused found opens)
    -- without a window there is no collection, so the identifier fails and asks nothing
    have still : (Verb.openNote.take host standing parameter).context.collection = none := by
      rw [first]
      exact held
    rw [taken, Verb.take_openId_of_none still, first, broken]
    refine ⟨[.collectionNotFound ("Unable to open collection at " ++ link.url),
      .missingContext "id"], ?_, ?_, by simp⟩
    · simp
    · simp [Report.fail_exchanges]
  · have first := Verb.take_openLocator_of_ok known (Locator.resolve_of_opened found opens)
    rw [taken, first]
    exact take_openId_completes named opens rfl

section NoteLink

variable {shortcut : String} {current : Option Window} {note : NoteRef}

theorem followNoteLink_of_nowhere (called : shortcut ≠ "")
    (nowhere : Locator.shortcutLink host shortcut conversation = (none, sought)) :
    ∃ events, followNoteLink host current shortcut note conversation =
      (none, { sought with events }) := by
  have given : shortcut.isEmpty = false := by simpa using called
  simp only [followNoteLink, given, Bool.false_eq_true, if_false, bind, StateT.bind, nowhere]
  exact ⟨_, rfl⟩

theorem followNoteLink_of_refused (called : shortcut ≠ "")
    (found : Locator.shortcutLink host shortcut conversation = (some link, sought))
    (refused : Dialogue.ask host (.openWindow link) sought = (none, opened)) :
    ∃ events, followNoteLink host current shortcut note conversation =
      (none, { opened with events }) := by
  have given : shortcut.isEmpty = false := by simpa using called
  simp only [followNoteLink, given, Bool.false_eq_true, if_false, bind, StateT.bind, found, refused]
  exact ⟨_, rfl⟩

theorem followNoteLink_of_opened (called : shortcut ≠ "")
    (found : Locator.shortcutLink host shortcut conversation = (some link, sought))
    (opens : Dialogue.ask host (.openWindow link) sought = (some window, opened)) :
    followNoteLink host current shortcut note conversation = (some window,
      (Dialogue.ask host (.focus window { origin := .noteLink, note }) opened).2) := by
  have given : shortcut.isEmpty = false := by simpa using called
  simp only [followNoteLink, given, Bool.false_eq_true, if_false, bind, StateT.bind, found, opens]
  rfl

/-- Following a link from a note opens what the shortcut is resolved to and focuses the note there,
and where the shortcut is not resolved nothing is focused. -/
theorem followNoteLink_resolves (called : shortcut ≠ "") (current : Option Window)
    (note : NoteRef) (conversation : Conversation σ) :
    let resolved := Locator.resolve host { shortcut := some shortcut } conversation
    let followed := followNoteLink host current shortcut note conversation
    (∃ window, resolved.1 = .ok window ∧ followed.1 = some window ∧
      followed.2 =
        (Dialogue.ask host (.focus window { origin := .noteLink, note }) resolved.2).2) ∨
    ∃ failure, resolved.1 = .error failure ∧ followed.1 = none ∧
      followed.2.exchanges = resolved.2.exchanges := by
  intro resolved followed
  have same : Locator.link host { shortcut := some shortcut } conversation =
      Locator.shortcutLink host shortcut conversation := by
    rw [Locator.link_of_shortcut host called]
  rcases found : Locator.shortcutLink host shortcut conversation with ⟨_ | link, sought⟩
  · have ended : resolved = _ := Locator.resolve_of_none (same.trans found)
    rcases followNoteLink_of_nowhere called found with ⟨events, stopped⟩
    have broken : followed = _ := stopped
    rw [ended, broken]
    exact Or.inr ⟨_, rfl, rfl, rfl⟩
  · rcases opens : Dialogue.ask host (.openWindow link) sought with ⟨_ | window, opened⟩
    · have ended : resolved = _ := Locator.resolve_of_refused (same.trans found) opens
      rcases followNoteLink_of_refused called found opens with ⟨events, stopped⟩
      have broken : followed = _ := stopped
      rw [ended, broken]
      exact Or.inr ⟨_, rfl, rfl, rfl⟩
    · have ended : resolved = _ := Locator.resolve_of_opened (same.trans found) opens
      have complete : followed = _ := followNoteLink_of_opened called found opens
      rw [ended, complete]
      exact Or.inl ⟨window, rfl, rfl, rfl⟩

end NoteLink

/-- What is done with a link from outside a command is what a command would do. Opening a link says
what the verb `open` says once it has looked the link up, and achieves it exactly if the verb reports
nothing. Following a link from a note says what resolving its shortcut says, and then focuses the
note in the window that was found, if one was found, and nowhere otherwise. -/
theorem links_agree_with_commands (host : Host σ) (conversation : Conversation σ) :
    (∀ parameter locator link id report sought, parameter.locator? = some locator →
      locator.link host conversation = (some link, sought) → id ≠ "" →
      let run := Verb.openNote.carryOut host [parameter, ⟨"id", id⟩] report conversation
      let direct := openLink host link id sought
      (∃ lookups, sought.exchanges = conversation.exchanges ++ lookups ∧
        ∀ exchange ∈ lookups, exchange.request.isLookup) ∧
      ∃ failures, run.1.2.entries = report.entries ++ failures.map .failure ∧
        run.2.exchanges = direct.2.exchanges ++ failures.flatMap report.alarm ∧
        (direct.1 = true ↔ failures = [])) ∧
    (∀ shortcut current note, shortcut ≠ "" →
      let resolved := Locator.resolve host { shortcut := some shortcut } conversation
      let followed := followNoteLink host current shortcut note conversation
      (∃ said, resolved.2.exchanges = conversation.exchanges ++ said ∧
        ∀ exchange ∈ said,
          exchange.request.isLookup ∨ ∃ link, exchange.request = .openWindow link) ∧
      ((∃ window, resolved.1 = .ok window ∧ followed.1 = some window ∧
          followed.2.exchanges = resolved.2.exchanges ++
            [⟨.focus window { origin := .noteLink, note },
              (host.answer resolved.2.state (.focus window { origin := .noteLink, note })).1⟩]) ∨
        ∃ failure, resolved.1 = .error failure ∧ followed.1 = none ∧
          followed.2.exchanges = resolved.2.exchanges)) := by
  constructor
  · intro parameter locator link id report sought known found named run direct
    constructor
    · rcases Locator.link_goesOn host locator conversation with ⟨lookups, goesOn⟩
      rw [found] at goesOn
      exact ⟨lookups, goesOn.exchanges, goesOn.ofKind⟩
    · let begun : Standing σ :=
        { context := {}, report := { report with verb := Verb.openNote.name }, conversation }
      have stands : Verb.openNote.standing host [parameter, ⟨"id", id⟩] report conversation =
          some ([parameter, ⟨"id", id⟩].foldl (Verb.openNote.take host) begun) := rfl
      have ended : run = _ := Verb.carryOut_of_standing stands
      have fresh : begun.context.collection = none := rfl
      rw [ended]
      exact takes_openLink known found named fresh
  · intro shortcut current note called resolved followed
    constructor
    · rcases Locator.resolve_goesOn host { shortcut := some shortcut } conversation with
        ⟨said, goesOn⟩
      exact ⟨said, goesOn.exchanges, goesOn.ofKind⟩
    · rcases followNoteLink_resolves called current note conversation with
        ⟨window, opened, same, told⟩ | broken
      · exact Or.inl ⟨window, opened, same, congrArg Conversation.exchanges told⟩
      · exact Or.inr broken

/-- A collection whose window is refused, and one that has the note: the verb and the link fail
alike at the first and ask the same of the second. The link from a note does not fall back on the
window that it is in, and focuses the note where the window is there. -/
theorem links_agree_refused_or_opened :
    let refusing : CatalogueState :=
      { catalogue := { shortcuts := [("work", "/work")], refusedUrls := ["file:///work"] },
        preferences := {}, lastSelected := none, tree := .ofWorking [] }
    let note : NoteRef := ⟨"todo", "To Do", none⟩
    let opening : CatalogueState :=
      { catalogue := { shortcuts := [("work", "/work")], notes := [("/work", [note])] },
        preferences := {}, lastSelected := none, tree := .ofWorking [] }
    let link : Link := { url := "file:///work", path := "/work" }
    let sought (state : CatalogueState) : Conversation CatalogueState :=
      { state, exchanges := [⟨.multiLink "work", none⟩, ⟨.shortcutLink "work", some link⟩] }
    let report : Report := { alerting := true }
    let direct (state : CatalogueState) := openLink catalogueHost link "todo" (sought state)
    let run (state : CatalogueState) := Verb.openNote.carryOut catalogueHost
      [⟨"shortcut", "work"⟩, ⟨"id", "todo"⟩] report { state }
    let followed (state : CatalogueState) :=
      followNoteLink catalogueHost (some ⟨7, link⟩) "work" note { state }
    ((direct refusing).1 = false ∧
      (∃ failures, failures ≠ [] ∧ (run refusing).2.exchanges =
        (direct refusing).2.exchanges ++ failures.flatMap report.alarm) ∧
      (followed refusing).1 = none) ∧
    (direct opening).1 = true ∧ (run opening).1.2.entries = [] ∧
      (run opening).2.exchanges = (direct opening).2.exchanges ∧
      (followed opening).1 = some ⟨1, link⟩ ∧
      (followed opening).2.exchanges.getLast? =
        some ⟨.focus ⟨1, link⟩ { origin := .noteLink, note }, true⟩ := by
  intro refusing note opening link sought report direct run followed
  constructor
  · have broken : (direct refusing).1 = false := rfl
    rcases links_agree_with_commands catalogueHost { state := refusing } with ⟨opens, follows⟩
    rcases opens ⟨"shortcut", "work"⟩ _ link "todo" report (sought refusing) rfl rfl
      (by decide) with ⟨_, failures, _, told, complete⟩
    rcases follows "work" (some ⟨7, link⟩) note (by decide) with
      ⟨_, ⟨window, opened, _⟩ | ⟨_, _, stopped, _⟩⟩
    · cases opened
    · refine ⟨broken, ⟨failures, ?_, told⟩, stopped⟩
      rintro rfl
      cases broken.symm.trans (complete.mpr rfl)
  · have whole : (direct opening).1 = true := rfl
    rcases links_agree_with_commands catalogueHost { state := opening } with ⟨opens, follows⟩
    rcases opens ⟨"shortcut", "work"⟩ _ link "todo" report (sought opening) rfl rfl
      (by decide) with ⟨_, failures, reported, told, complete⟩
    have none : failures = [] := complete.mp whole
    subst none
    rcases follows "work" (some ⟨7, link⟩) note (by decide) with
      ⟨_, ⟨window, opened, focused, spoken⟩ | ⟨_, broken, _⟩⟩
    · cases opened
      refine ⟨whole, reported, ?_, focused, ?_⟩
      · exact told.trans (List.append_nil _)
      · rw [spoken, List.getLast?_concat]
        rfl
    · cases broken

end Interpreter

end CommandUrl

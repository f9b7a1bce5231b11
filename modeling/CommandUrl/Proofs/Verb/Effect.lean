import CommandUrl.Host.Catalogue
import CommandUrl.Proofs.File.Beside
import CommandUrl.Proofs.Link.NormalForm
import CommandUrl.Proofs.Note.Content
import CommandUrl.Proofs.Verb.Guidance
import CommandUrl.Proofs.Verb.Turn

/-!
# What parameters achieve

A parameter takes effect or fails, and the report tells which: a parameter that
fails is reported once, and one that is not reported has taken effect. What it
is to take effect depends on the verb and on the label, and is stated here by
the value of the parameter, by what was said in its turn and by the context that
it left, so that it can be told without knowing how the parameter was handled. A
value that a verb takes apart or puts together with another is followed as text:
a script is the value without the marker in front of it, a tag the value without
its sign, and a file is where its path is seen from the note selected last.

The proof is a pass through the verbs in the shape of the verbs themselves. At
every end of a handling the effect is there or not, and it is there exactly at
the ends that report nothing.
-/

namespace CommandUrl

variable {σ : Type}

/-- Requests to focus a note. -/
def Request.isFocus : Request → Bool
  | focus .. => true
  | _ => false

/-- The bare text is the text stripped of the sign in front, if it starts with the sign; only one is
taken away. -/
def Text.Stripped (sign text bare : String) : Prop :=
  text = sign ++ bare ∨ text = bare ∧ ¬ sign.toList <+: text.toList

/-- The value is in the draft where the label says. A label that is not among the names of the
title, the body and the date is that of a field, which is kept under the first label of the
collection that has the same common form. -/
def Draft.Holds (draft : Draft) (label value : String) : Prop :=
  match label with
  | "title" | "name" => draft.title = some value
  | "body" | "note" => draft.body = some value
  | "date" | "due" | "completed" => draft.date = some value
  | _ => commonForm label ≠ "" ∧
    ∃ declared, draft.schema.fieldLabels.find? (commonForm · = commonForm label) = some declared ∧
      draft.fields.lookup declared = some value

/-- The parameter names a collection. -/
def Parameter.NamesCollection (parameter : Parameter) : Prop :=
  parameter.label = "shortcut" ∨ parameter.label = "path" ∨ parameter.label = "special"

instance : DecidablePred Parameter.NamesCollection :=
  fun _ => inferInstanceAs (Decidable (_ ∨ _ ∨ _))

namespace Verb

/-- A window was handed out. -/
def Opens (verb : Verb) (said : List Exchange) (_ : Context) : Prop :=
  ∃ window, verb.inForce? said = some window

/-- A view was asked to focus a note; it may have declined. -/
def Focuses (said : List Exchange) (_ : Context) : Prop :=
  ∃ window note answer, ⟨.focus window { origin := .command, note }, answer⟩ ∈ said

/-- No view has been asked to focus a note. -/
def Unfocused (said : List Exchange) : Prop :=
  ∀ exchange ∈ said, exchange.request.isFocus = false

/-- A window was handed out, its collection has a schema, and there is a draft under it with nothing
in it. -/
def BeginsDraft (said : List Exchange) (left : Context) : Prop :=
  ∃ window schema, add.inForce? said = some window ∧ ⟨.schema window, some schema⟩ ∈ said ∧
    left.draft = some { schema, title := none, body := none, date := none, fields := [] }

/-- There is a draft, and it has the value where the label says. -/
def WritesDraft (label value : String) (_ : List Exchange) (left : Context) : Prop :=
  ∃ draft, left.draft = some draft ∧ draft.Holds label value

/-- A view has opened the attachment. -/
def Attaches (title : String) (said : List Exchange) (_ : Context) : Prop :=
  ∃ window, ⟨.openAttachment window title, true⟩ ∈ said

/-- A view was asked to select a note in the given way. -/
def Selects (way : String) (said : List Exchange) (_ : Context) : Prop :=
  ∃ window,
    way = "random" ∧ ⟨.selectRandom window false, ()⟩ ∈ said ∨
    way = "randompick" ∧ ⟨.selectRandom window true, ()⟩ ∈ said ∨
    way = "action" ∧ ⟨.selectNote window, ()⟩ ∈ said

/-- A view was asked to show quotes, which is the one mode there is. -/
def Switches (mode : String) (said : List Exchange) (_ : Context) : Prop :=
  mode = "quotes" ∧ ∃ window, ⟨.ensureQuotesMode window, ()⟩ ∈ said

/-- A view was asked to show the navigation and then to unfold the tag in it. -/
def Unfolds (value : String) (said : List Exchange) (_ : Context) : Prop :=
  ∃ window tag, Text.Stripped "#" value tag ∧
    said = [⟨.showNavigation window, ()⟩, ⟨.expandTag window tag, ()⟩]

/-- The script is to run when the value says. -/
def Schedules (value : String) (_ : List Exchange) (left : Context) : Prop :=
  value = "now" ∧ left.immediate = true ∨ value = "wait" ∧ left.immediate = false

/-- The value, which may have a marker in front, was found to lead to a script, and that script is
the one to run. -/
def Chooses (value : String) (said : List Exchange) (left : Context) : Prop :=
  ∃ script, Text.Stripped "file://" value script ∧
    said = [⟨.classify { url := "file://" ++ script, path := script }, .script⟩] ∧
    left.script = some script

/-- The path was revealed as it is seen from the note that was selected last. -/
def Reveals (path : String) (said : List Exchange) (_ : Context) : Prop :=
  ∃ note target, Path.SeenFrom note path target ∧
    said = [⟨.lastSelectedPath, note⟩, ⟨.reveal target, true⟩]

/-- Nothing that a parameter does counts as its effect. -/
def Idle (_ : List Exchange) (_ : Context) : Prop :=
  False

/-- What a parameter of `open` achieves in the collection that is open; `notepath` opens another. -/
def OpenEffect (label value : String) : List Exchange → Context → Prop :=
  match label with
  | "id" | "timestamp" | "notepath" => Focuses
  | "attachment" => Attaches value
  | "select" => Selects value
  | "mode" => Switches value
  | _ => Idle

/-- What a parameter of `run` achieves. -/
def RunEffect (label value : String) : List Exchange → Context → Prop :=
  match label with
  | "go" => Schedules value
  | "path" => Chooses value
  | _ => Idle

/-- What a parameter achieves when it takes effect, as far as can be seen from what was said in its
turn and from the context that it left. -/
def Effect (verb : Verb) (parameter : Parameter) : List Exchange → Context → Prop :=
  match verb with
  | add =>
    if parameter.NamesCollection then BeginsDraft
    else WritesDraft parameter.label parameter.value
  | help => if parameter.label = "id" then Focuses else Idle
  | expand =>
    if parameter.NamesCollection then expand.Opens
    else if parameter.label = "tag" then Unfolds parameter.value
    else Idle
  | openNote =>
    if parameter.NamesCollection then openNote.Opens
    else OpenEffect parameter.label parameter.value
  | prefs => Idle
  | run => RunEffect parameter.label parameter.value
  | find => if parameter.label = "path" then Reveals parameter.value else Idle

/-- The handling has its effect where it succeeds, and does not have it where it fails. -/
def Accounts (host : Host σ) (effect : List Exchange → Context → Prop) (history : List Exchange)
    (context : Context) (handling : Handling σ Unit) : Prop :=
  Handling.Follows host (fun _ _ => True) (fun said _ left => ¬ effect said left)
    (fun said _ left => effect said left) history context handling

section Values

theorem namesCollection_iff {parameter : Parameter} :
    parameter.NamesCollection ↔ parameter.locator?.isSome := by
  unfold Parameter.NamesCollection Parameter.locator?
  split <;> simp_all

theorem stripped_bareTag (value : String) : Text.Stripped "#" value (bareTag value) := by
  unfold bareTag
  split
  · next tag signed =>
      left
      apply String.toList_injective
      simp [signed]
  · next unsigned =>
      right
      refine ⟨rfl, ?_⟩
      rintro ⟨tag, signed⟩
      exact unsigned tag signed.symm

/-- To spell a path is to be the path with the marker of links, or the path without one. -/
theorem stripped_iff_spells {text path : String} :
    Text.Stripped "file://" text path ↔ Link.Spells text path :=
  Iff.rfl

theorem chooses_of_ofText? {value : String} {link : Link} {left : Context}
    (led : Link.ofText? value = some link) (chosen : left.script = some link.path) :
    Chooses value [⟨.classify link, .script⟩] left := by
  rcases Link.ofText?_eq_some_iff.mp led with ⟨script, spells, _, rfl⟩
  exact ⟨script, stripped_iff_spells.mpr spells, rfl, chosen⟩

variable {draft written : Draft} {label value : String}

theorem holds_of_write? (wrote : (Slot.ofLabel label).write? draft value = some written) :
    written.Holds label value := by
  unfold Slot.ofLabel at wrote
  split at wrote
  iterate 7
    cases wrote
    rfl
  · simp only [Draft.Holds]
    simp only [Slot.write?, Draft.setField?, Option.map_eq_some_iff] at wrote
    rcases wrote with ⟨declared, found, rfl⟩
    rcases Schema.declared?_eq_some.mp found with ⟨first, common⟩
    exact ⟨common, declared, first, Draft.lookup_putField_self declared value draft.fields⟩

theorem not_holds_of_write? (refused : (Slot.ofLabel label).write? draft value = none) :
    ¬ draft.Holds label value := by
  unfold Slot.ofLabel at refused
  split at refused
  iterate 7 cases refused
  simp only [Draft.Holds]
  simp only [Slot.write?, Draft.setField?, Option.map_eq_none_iff] at refused
  rintro ⟨common, declared, first, _⟩
  have found := Schema.declared?_eq_some.mpr ⟨first, common⟩
  rw [refused] at found
  cases found

end Values

section Focus

variable {history : List Exchange} {left : Context}

theorem unfocused_nil : Unfocused [] := by
  intro exchange mem
  simp at mem

theorem Unfocused.ask (unfocused : Unfocused history) (request : Request)
    (other : request.isFocus = false) (answer : request.Answer) :
    Unfocused (history ++ [⟨request, answer⟩]) := by
  intro exchange mem
  rcases List.mem_append.mp mem with old | new
  · exact unfocused exchange old
  · rw [List.mem_singleton.mp new]
    exact other

theorem Unfocused.lookups (unfocused : Unfocused history) {sought : List Exchange}
    (looked : Lookups history sought) : Unfocused sought := by
  rcases looked with ⟨said, rfl, lookups⟩
  intro exchange mem
  rcases List.mem_append.mp mem with old | new
  · exact unfocused exchange old
  · have lookup := lookups exchange new
    cases asked : exchange.request <;> first | rfl | simp [asked, Request.isLookup] at lookup

theorem Unfocused.not_focuses (unfocused : Unfocused history) : ¬ Focuses history left := by
  rintro ⟨window, note, answer, mem⟩
  have other := unfocused _ mem
  cases other

end Focus

section Handlings

variable {host : Host σ} {context : Context} {history : List Exchange}

theorem not_opens {verb : Verb} {said : List Exchange} (unhanded : verb.inForce? said = none)
    (left : Context) : ¬ verb.Opens said left := by
  rintro ⟨window, handed⟩
  rw [unhanded] at handed
  cases handed

theorem establish_accounts {verb : Verb} (browsing : verb ≠ help) (locator : Locator) :
    Accounts host verb.Opens [] context (do let _ ← Handling.establish host locator) := by
  refine .establish_bind (fun _ _ _ => trivial) (fun _ _ => trivial) ?_ ?_ ?_
  · intro sought _ looked
    exact not_opens (inForce?_of_lookups looked) _
  · intro sought link _ looked
    exact not_opens (inForce?_of_refused looked) _
  · intro sought link window _
    exact .pure ⟨window, inForce?_of_opened browsing sought link window⟩

theorem focusFound_accounts {window : Window} {found : Option NoteRef} {missing : String}
    (unfocused : Unfocused history) :
    Accounts host Focuses history context (Handling.focusFound host window found missing) := by
  refine .focusFound (fun _ => trivial) (fun _ => unfocused.not_focuses) ?_
  intro note answer _
  exact ⟨window, note, answer, by simp⟩

theorem openTimestamp_accounts {window : Window} (timestamp : String)
    (unfocused : Unfocused history) :
    Accounts host Focuses history context (openTimestamp host window timestamp) := by
  refine .ask_bind trivial fun schema => ?_
  have asked := unfocused.ask (.schema window) rfl schema
  dsimp only
  split
  · exact .throw_bind asked.not_focuses
  · refine .ask_bind trivial fun found => ?_
    exact focusFound_accounts (asked.ask _ rfl found)

theorem openNotePath_accounts (path : String) (unfocused : Unfocused history) :
    Accounts host Focuses history context (openNotePath host path) := by
  refine .files_bind fun tree => ?_
  dsimp only
  split
  · exact .throw_bind unfocused.not_focuses
  · split
    · exact .throw unfocused.not_focuses
    · refine .establish_bind (fun _ _ _ => trivial) (fun _ _ => trivial) ?_ ?_ ?_
      · intro sought _ looked
        exact (unfocused.lookups looked).not_focuses
      · intro sought link _ looked
        exact ((unfocused.lookups looked).ask _ rfl _).not_focuses
      · intro sought link window looked
        have opened := (unfocused.lookups looked).ask (.openWindow link) rfl (some window)
        refine .ask_bind trivial fun found => ?_
        exact focusFound_accounts (opened.ask _ rfl found)

theorem openAttachment_accounts {window : Window} (title : String) :
    Accounts host (Attaches title) [] context (openAttachment host window title) := by
  refine .ask_bind trivial fun selected => ?_
  dsimp only
  split
  · exact .throw_bind (by simp [Attaches])
  · refine .ask_bind trivial fun opened => ?_
    cases opened with
    | false => exact .throw (by simp [Attaches])
    | true => exact .pure ⟨window, by simp⟩

theorem requireCollection_accounts {effect : List Exchange → Context → Prop} {label : String}
    {next : Window → Handling σ Unit} (nothing : ∀ left, ¬ effect [] left)
    (rest : ∀ window, Accounts host effect [] context (next window)) :
    Accounts host effect [] context (Handling.requireCollection label >>= next) :=
  .requireCollection_bind (fun _ => nothing context) fun window _ => rest window

theorem select_accounts {window : Window} (way : String) {failure : Failure} :
    Accounts host (Selects way) [] context
      (match way with
      | "random" => Handling.ask host (.selectRandom window false)
      | "randompick" => Handling.ask host (.selectRandom window true)
      | "action" => Handling.ask host (.selectNote window)
      | _ => throw failure) := by
  split
  · refine .ask (.selectRandom window false) trivial fun answer => ?_
    exact ⟨window, Or.inl ⟨rfl, by simp⟩⟩
  · refine .ask (.selectRandom window true) trivial fun answer => ?_
    exact ⟨window, Or.inr (Or.inl ⟨rfl, by simp⟩)⟩
  · refine .ask (.selectNote window) trivial fun answer => ?_
    exact ⟨window, Or.inr (Or.inr ⟨rfl, by simp⟩)⟩
  · exact .throw (by simp [Selects])

theorem openParameter_accounts (parameter : Parameter) :
    Accounts host (openNote.Effect parameter) [] context (openParameter host parameter) := by
  simp only [openParameter, Effect, namesCollection_iff]
  cases located : parameter.locator? with
  | some locator => exact establish_accounts (by simp) locator
  | none =>
      simp only [Option.isSome_none, Bool.false_eq_true, if_false]
      split
      · next label =>
          simp only [label, OpenEffect]
          refine requireCollection_accounts (fun _ => unfocused_nil.not_focuses) fun window => ?_
          refine .ask_bind trivial fun found => ?_
          exact focusFound_accounts (unfocused_nil.ask _ rfl found)
      · next label =>
          simp only [label, OpenEffect]
          refine requireCollection_accounts (fun _ => unfocused_nil.not_focuses) fun window => ?_
          exact openTimestamp_accounts _ unfocused_nil
      · next label =>
          simp only [label, OpenEffect]
          exact openNotePath_accounts _ unfocused_nil
      · next label =>
          simp only [label, OpenEffect]
          refine requireCollection_accounts (by simp [Attaches]) fun window => ?_
          exact openAttachment_accounts _
      · next label =>
          simp only [label, OpenEffect]
          refine requireCollection_accounts (by simp [Selects]) fun window => ?_
          exact select_accounts parameter.value
      · next label =>
          simp only [label, OpenEffect]
          split
          · next quotes =>
              refine requireCollection_accounts (by simp [Switches]) fun window => ?_
              refine .ask (.ensureQuotesMode window) trivial fun answer => ?_
              exact ⟨quotes, window, by simp⟩
          · next other => exact .throw fun switched => other switched.1
      · simp only [OpenEffect]
        exact .throw id

theorem expandParameter_accounts (parameter : Parameter) :
    Accounts host (expand.Effect parameter) [] context (expandParameter host parameter) := by
  simp only [expandParameter, Effect, namesCollection_iff]
  cases located : parameter.locator? with
  | some locator => exact establish_accounts (by simp) locator
  | none =>
      simp only [Option.isSome_none, Bool.false_eq_true, if_false]
      split
      · refine requireCollection_accounts (by simp [Unfolds]) fun window => ?_
        refine .ask_bind trivial fun shown => ?_
        refine .ask (.expandTag window _) trivial fun unfolded => ?_
        exact ⟨window, _, stripped_bareTag parameter.value, rfl⟩
      · exact .throw id

theorem helpParameter_accounts (parameter : Parameter) :
    Accounts host (help.Effect parameter) [] context (helpParameter host parameter) := by
  simp only [helpParameter, Effect]
  split
  · refine requireCollection_accounts (fun _ => unfocused_nil.not_focuses) fun window => ?_
    refine .ask_bind trivial fun found => ?_
    exact focusFound_accounts (unfocused_nil.ask _ rfl found)
  · exact .throw id

theorem beginDraft_accounts (locator : Locator) :
    Accounts host BeginsDraft [] context (beginDraft host locator) := by
  refine .establish_bind (fun _ _ _ => trivial) (fun _ _ => trivial) ?_ ?_ ?_
  · rintro sought _ looked ⟨window, _, handed, _⟩
    exact not_opens (inForce?_of_lookups looked) context ⟨window, handed⟩
  · rintro sought link _ looked ⟨window, _, handed, _⟩
    exact not_opens (inForce?_of_refused looked) context ⟨window, handed⟩
  · intro sought link window _
    refine .ask_bind trivial fun schema => .modify_bind ?_
    cases schema with
    | none => exact .throw (by simp [BeginsDraft])
    | some schema =>
        refine .pure ⟨window, schema, ?_, by simp, rfl⟩
        rw [inForce?_ask (handed?_of_window? rfl)]
        exact inForce?_of_opened (by simp) sought link window

theorem writeDraft_accounts (parameter : Parameter) :
    Accounts host (WritesDraft parameter.label parameter.value) [] context
      (writeDraft parameter) := by
  refine .get_bind ?_
  cases held : context.draft with
  | none => exact .throw (by simp [WritesDraft, held])
  | some draft =>
      dsimp only
      split
      · next written wrote => exact .modify ⟨written, rfl, holds_of_write? wrote⟩
      · next refused =>
          refine .throw ?_
          rintro ⟨other, same, holds⟩
          rw [held] at same
          cases same
          exact not_holds_of_write? refused holds

theorem addParameter_accounts (parameter : Parameter) :
    Accounts host (add.Effect parameter) [] context (addParameter host parameter) := by
  simp only [addParameter, Effect, namesCollection_iff]
  cases located : parameter.locator? with
  | some locator => exact beginDraft_accounts locator
  | none => exact writeDraft_accounts parameter

theorem chooseScript_accounts (path : String) :
    Accounts host (Chooses path) [] context (chooseScript host path) := by
  unfold chooseScript
  cases led : Link.ofText? path with
  | none => exact .throw (by simp [Chooses])
  | some link =>
      refine .ask_bind trivial fun kind => ?_
      split
      · next script =>
          subst script
          exact .modify (chooses_of_ofText? led rfl)
      · next other =>
          refine .throw ?_
          rintro ⟨script, _, classified, _⟩
          simp only [List.nil_append, List.cons.injEq, Exchange.mk.injEq, and_true] at classified
          exact other (eq_of_heq classified.2)

theorem runParameter_accounts (parameter : Parameter) :
    Accounts host (run.Effect parameter) [] context (runParameter host parameter) := by
  simp only [runParameter, Effect]
  split
  · next label =>
      simp only [label, RunEffect]
      split
      · next now => exact .modify (Or.inl ⟨now, rfl⟩)
      · next wait => exact .modify (Or.inr ⟨wait, rfl⟩)
      · next notNow notWait =>
          refine .throw ?_
          rintro (⟨now, _⟩ | ⟨wait, _⟩)
          · exact notNow now
          · exact notWait wait
  · next label =>
      simp only [label, RunEffect]
      exact chooseScript_accounts parameter.value
  · simp only [RunEffect]
    exact .throw id

theorem findParameter_accounts (parameter : Parameter) :
    Accounts host (find.Effect parameter) [] context (findParameter host parameter) := by
  simp only [findParameter, Effect]
  split
  · refine .ask_bind trivial fun note => .ask_bind trivial fun revealed => ?_
    cases revealed with
    | false => exact .throw (by simp [Reveals])
    | true => exact .pure ⟨note, _, Path.beside_seenFrom note parameter.value, rfl⟩
  · exact .throw id

/-- Every verb fails at a parameter exactly where it has not done what the parameter is for. -/
theorem parameter_accounts (verb : Verb) (parameter : Parameter) :
    Accounts host (verb.Effect parameter) [] context
      ((verb.procedure host).parameter parameter) := by
  cases verb with
  | add => exact addParameter_accounts parameter
  | help => exact helpParameter_accounts parameter
  | expand => exact expandParameter_accounts parameter
  | openNote => exact openParameter_accounts parameter
  | prefs => exact .throw id
  | run => exact runParameter_accounts parameter
  | find => exact findParameter_accounts parameter

end Handlings

section Runs

variable (host : Host σ) (verb : Verb) (report : Report) (conversation : Conversation σ)

/-- The parameter takes effect and is not reported, or it does not and is reported once. -/
theorem turn_accounts (standing : Standing σ) (parameter : Parameter) :
    let turn := verb.turn host standing parameter
    turn.reported = [] ∧ verb.Effect turn.parameter turn.said turn.left ∨
      ∃ failure, turn.reported = [.failure failure] ∧
        ¬ verb.Effect turn.parameter turn.said turn.left := by
  have accounts : Accounts host (verb.Effect parameter) [] standing.context
      ((verb.procedure host).parameter parameter) := parameter_accounts verb parameter
  rcases turn_cases accounts with ⟨_, cases⟩
  exact cases

theorem standing_nil_eq_none :
    verb.standing host [] report conversation = none ↔
      verb = help ∧ (Dialogue.ask host .openKnowledgeBase conversation).1 = none := by
  cases verb with
  | help =>
      rcases asked : Dialogue.ask host .openKnowledgeBase conversation with ⟨_ | window, later⟩
      · have started : (help.procedure host).start conversation =
            (.error (.collectionNotFound "Notenik Knowledge Base could not be opened"), later) := by
          simp only [procedure, helpProcedure, bind, StateT.bind, asked]
          rfl
        simp [standing, started]
      · have started : (help.procedure host).start conversation =
            (.ok { collection := some window }, later) := by
          simp only [procedure, helpProcedure, bind, StateT.bind, asked]
          rfl
        simp [standing, started]
  | _ =>
      refine iff_of_false ?_ ?_
      · intro nowhere
        cases nowhere
      · rintro ⟨same, _⟩
        cases same

theorem standing_eq_map (parameters : List Parameter) :
    verb.standing host parameters report conversation =
      (verb.standing host [] report conversation).map (parameters.foldl (verb.take host)) :=
  verb.standing_append host [] parameters report conversation

theorem report_of_standing_nil {first : Standing σ}
    (stands : verb.standing host [] report conversation = some first) :
    first.report = { report with verb := verb.name } := by
  rcases standing_cases stands with ⟨context, later, _, rfl⟩
  rfl

theorem finish_reports (context : Context) :
    Dialogue.Follows host (fun _ _ => True)
      (fun _ entry => entry = none ∨ verb = add ∧ ((∃ message, entry = some (.remark message)) ∨
        ∃ description, entry = some (.failure (.noteCommitFailed description))))
      [] ((verb.procedure host).finish context) := by
  cases verb with
  | add =>
      simp only [procedure, addProcedure, commitDraft]
      split
      · refine .ask trivial fun answer => ?_
        cases answer with
        | some note => exact .pure (by simp)
        | none => exact .pure (by simp)
      · exact .pure (Or.inl rfl)
  | run =>
      simp only [procedure, runProcedure, launchScript]
      split
      · exact .ask trivial fun _ => .pure (Or.inl rfl)
      · exact .pure (Or.inl rfl)
  | prefs => exact .ask trivial fun _ => .pure (Or.inl rfl)
  | _ => exact .pure (Or.inl rfl)

/-- No parameter is lost and none is reported twice: each one takes effect or is reported, once. The
report of a run consists of what its parameters report, in their order, and of at most one entry
about the note that `add` adds at the end. Only `help` may fail to begin, which it reports once. -/
theorem carryOut_accounts (parameters : List Parameter) :
    let entries := (verb.carryOut host parameters report conversation).1.2.entries
    let closed := verb = help ∧ (Dialogue.ask host .openKnowledgeBase conversation).1 = none
    (closed → ∃ failure, entries = report.entries ++ [.failure failure]) ∧
    (¬ closed → ∃ first closing,
      verb.standing host [] report conversation = some first ∧
      let turns := verb.turns host first parameters
      turns.map Turn.parameter = parameters ∧
      (∀ turn ∈ turns,
        turn.reported = [] ∧ verb.Effect turn.parameter turn.said turn.left ∨
          ∃ failure, turn.reported = [.failure failure] ∧
            ¬ verb.Effect turn.parameter turn.said turn.left) ∧
      entries = report.entries ++ turns.flatMap Turn.reported ++ closing ∧
      (closing = [] ∨ verb = add ∧ ((∃ message, closing = [.remark message]) ∨
        ∃ description, closing = [.failure (.noteCommitFailed description)]))) := by
  intro entries closed
  constructor
  · intro shut
    have nowhere : verb.standing host parameters report conversation = none := by
      rw [standing_eq_map, (standing_nil_eq_none host verb report conversation).mpr shut]
      rfl
    rcases carryOut_of_nowhere nowhere with ⟨failure, later, _, carried⟩
    have reported : entries = report.entries ++ [.failure failure] := by
      simp only [entries, carried, Report.fail_report, Report.add_entries]
    exact ⟨failure, reported⟩
  · intro begins
    have somewhere : verb.standing host [] report conversation ≠ none := fun nowhere =>
      begins ((standing_nil_eq_none host verb report conversation).mp nowhere)
    rcases Option.ne_none_iff_exists'.mp somewhere with ⟨first, stands⟩
    let last := parameters.foldl (verb.take host) first
    have lasted : verb.standing host parameters report conversation = some last := by
      rw [standing_eq_map, stands]
      rfl
    let ended := (verb.procedure host).finish last.context last.conversation
    rcases (finish_reports host verb last.context).said last.conversation with ⟨_, _, closing⟩
    rcases takes_add host verb first parameters with ⟨_, reported⟩
    refine ⟨first, ended.1.toList, stands, map_parameter_turns host verb first parameters,
      forall_turns host verb (turn_accounts host verb) first parameters, ?_, ?_⟩
    · have carried : entries = (verb.ending host last).1.2.entries := by
        simp only [entries, carryOut_of_standing lasted]
      have begun : first.report.entries = report.entries := by
        rw [report_of_standing_nil host verb report conversation stands]
      rw [carried, ← begun, ← reported]
      exact conclude_entries ended.1 last.report ended.2
    · rcases closing with none | ⟨adding, ⟨message, remarked⟩ | ⟨description, refused⟩⟩
      · exact Or.inl (by simp only [ended, none, Option.toList])
      · exact Or.inr ⟨adding, Or.inl ⟨message, by simp only [ended, remarked, Option.toList]⟩⟩
      · exact Or.inr ⟨adding, Or.inr ⟨description, by simp only [ended, refused, Option.toList]⟩⟩

end Runs

/-- A desk with a script at the root, where a note was selected before. -/
def scriptedDesk : CatalogueState where
  catalogue := {}
  preferences := {}
  lastSelected := some "/notes/todo.txt"
  tree := (FileTree.ofWorking []).put ["x.tcz".toList] (.file [])

/-- A script that is given by its address is left without the marker, and a relative path is
revealed beside the note that was selected last. -/
theorem carryOut_accounts_paths :
    let ran := run.carryOut catalogueHost [⟨"path", "file:///x.tcz"⟩] { alerting := false }
      { state := scriptedDesk }
    let found := find.carryOut catalogueHost [⟨"path", "a.pdf"⟩] { alerting := false } ran.2
    ran.1.2.entries = [] ∧ found.1.2.entries = [] ∧
      (∃ begun, run.standing catalogueHost [] { alerting := false } { state := scriptedDesk } =
          some begun ∧
        (run.turn catalogueHost begun ⟨"path", "file:///x.tcz"⟩).left.script = some "/x.tcz") ∧
      ∃ begun target, find.standing catalogueHost [] { alerting := false } ran.2 = some begun ∧
        (find.turn catalogueHost begun ⟨"path", "a.pdf"⟩).said =
          [⟨.lastSelectedPath, some "/notes/todo.txt"⟩, ⟨.reveal target, true⟩] ∧
        target.toList.head? = some '/' ∧
        Path.namesOn target = ["notes".toList, "a.pdf".toList] := by
  have quiet : (run.carryOut catalogueHost [⟨"path", "file:///x.tcz"⟩] { alerting := false }
      { state := scriptedDesk }).1.2.entries = [] := rfl
  have chosen : (run.turn catalogueHost
      ⟨{}, { alerting := false, verb := run.name }, { state := scriptedDesk }⟩
      ⟨"path", "file:///x.tcz"⟩).reported = [] := rfl
  intro ran found
  have silent : found.1.2.entries = [] := rfl
  have shown : (find.turn catalogueHost
      ⟨{}, { alerting := false, verb := find.name }, ran.2⟩ ⟨"path", "a.pdf"⟩).reported = [] := rfl
  have asked : (find.turn catalogueHost
      ⟨{}, { alerting := false, verb := find.name }, ran.2⟩ ⟨"path", "a.pdf"⟩).said.head? =
        some ⟨.lastSelectedPath, some "/notes/todo.txt"⟩ := rfl
  rcases (carryOut_accounts catalogueHost run { alerting := false } { state := scriptedDesk }
    [⟨"path", "file:///x.tcz"⟩]).2 (by simp) with ⟨begun, _, stands, _, accounts, _⟩
  rcases (carryOut_accounts catalogueHost find { alerting := false } ran.2
    [⟨"path", "a.pdf"⟩]).2 (by simp) with ⟨resumed, _, continues, _, reveals, _⟩
  have start : begun = ⟨{}, { alerting := false, verb := run.name }, { state := scriptedDesk }⟩ :=
    (Option.some.inj stands).symm
  have restart : resumed = ⟨{}, { alerting := false, verb := find.name }, ran.2⟩ :=
    (Option.some.inj continues).symm
  refine ⟨quiet, silent, ⟨begun, stands, ?_⟩, resumed, ?_⟩
  · rcases accounts _ (List.mem_singleton.mpr rfl) with ⟨_, named, bare, _, left⟩ | ⟨_, other, _⟩
    · rcases bare with marked | ⟨_, unmarked⟩
      · have same : "/x.tcz" = named := (String.append_right_inj "file://").mp marked
        rw [left, same]
      · exact absurd (show "file://".toList <+: "file:///x.tcz".toList by decide) unmarked
    · rw [start] at other
      cases chosen.symm.trans other
  · rcases reveals _ (List.mem_singleton.mpr rfl) with ⟨_, note, target, seen, said⟩ | ⟨_, other, _⟩
    · have noted : note = some "/notes/todo.txt" := by
        rw [← restart, said] at asked
        cases asked
        rfl
      subst noted
      refine ⟨target, continues, said, ?_⟩
      have seen : Path.SeenFrom (some "/notes/todo.txt") "a.pdf" target := seen
      -- the path is relative and the note is in a folder, so it is not seen as it stands
      cases seen with
      | rooted root => exact absurd root (by decide)
      | alone outermost =>
          rcases outermost _ rfl with empty | ⟨_, unnamed⟩
          · exact absurd empty (by decide)
          · exact absurd unnamed (by decide)
      | around noted _ _ _ _ start names =>
          cases noted
          exact ⟨start.mpr rfl, names⟩
    · rw [restart] at other
      cases shown.symm.trans other

end Verb

end CommandUrl

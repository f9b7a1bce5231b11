import CommandUrl.File.Classify
import CommandUrl.Host.Catalogue
import CommandUrl.Proofs.Acceptance
import CommandUrl.Proofs.Link.NormalForm
import CommandUrl.Proofs.Query
import CommandUrl.Proofs.Query.Pieces
import CommandUrl.Proofs.Text.Split
import CommandUrl.Proofs.Verb.Effect
import CommandUrl.Proofs.Verb.Progress
import Mathlib.Data.List.Induction

/-!
# What is launched

A script is launched by one verb, at its end, once. Which script that is comes
from the text of the command, and so from anybody; what keeps it to scripts is
that the path was looked at before it was chosen. Looking says what was there
then. It says what is there at the launch because in between the verb does
nothing but look at other paths and tell the user of failures, and neither
changes a file.

The proof follows the script from the launch backwards: the verb `run` carries
it in its context, it got there from a parameter whose path was found to lead to
a script, and the parameter was decoded from a piece of the query.
-/

namespace CommandUrl

variable {σ : Type}

/-- Requests to run a script. -/
def Request.isLaunch : Request → Bool
  | launch .. => true
  | _ => false

/-- Requests that leave the files alone: to look at what a link leads to, and to tell the user of a
failure. -/
def Request.sparesFiles : Request → Bool
  | classify _ | alert _ => true
  | _ => false

/-- From the state on, whatever it is asked, the host tells what a link leads to by looking at its
files, and its files are not changed by looking at them or by an alert. -/
structure Host.LooksAtFiles (host : Host σ) (state : σ) : Prop where
  classified : ∀ requests link, (host.answer (host.after state requests) (.classify link)).1 =
    (host.files (host.after state requests)).classify link
  spared : ∀ requests request, request.sparesFiles →
    host.files (host.answer (host.after state requests) request).2 =
      host.files (host.after state requests)

/-- The name of the file is a name, a dot and the extension of scripts, in any case. -/
def Path.HasScriptName (path : Path) : Prop :=
  ∃ stem extension, stem ≠ [] ∧ path.fileName? = some (stem ++ '.' :: extension) ∧
    extension.map Char.toLower = scriptExtension.toList

/-- There is a regular file at the path, and it has the name of a script. -/
def FileTree.HoldsScript (tree : FileTree) (path : String) : Prop :=
  tree.isFile path ∧ (Path.ofText path).HasScriptName

section Files

theorem Path.hasScriptName_of_isScript {path : Path} (script : path.isScript) :
    path.HasScriptName := by
  simp only [isScript, extension?, Option.any_bind, Option.any_eq_true] at script
  rcases script with ⟨name, named, extended⟩
  cases cut : Text.cutLast? '.' name with
  | none => simp [cut] at extended
  | some pieces =>
      rcases pieces with ⟨stem, extension⟩
      by_cases bare : stem = []
      · simp [cut, bare] at extended
      · refine ⟨stem, extension, bare, ?_, ?_⟩
        · rw [named, Text.eq_of_cutLast? cut]
        · simpa [cut, bare] using extended

theorem FileTree.holdsScript_of_classify {tree : FileTree} {link : Link}
    (script : tree.classify link = .script) : tree.HoldsScript link.path := by
  unfold classify at script
  split at script
  · split at script <;> cases script
  · split at script
    · next file =>
        split at script
        · next named => exact ⟨file, Path.hasScriptName_of_isScript named⟩
        · cases script
    · cases script

end Files

namespace Host

variable {host : Host σ} {state final : σ} {said : List Exchange}

theorem LooksAtFiles.classify_eq (looks : host.LooksAtFiles state)
    (answers : host.Answers state said final) (link : Link) :
    (host.answer final (.classify link)).1 = (host.files final).classify link := by
  rw [answers.eq_after]
  exact looks.classified _ link

/-- As long as files are spared they stay as they are. -/
theorem LooksAtFiles.files_eq (looks : host.LooksAtFiles state)
    (answers : host.Answers state said final)
    (spared : ∀ exchange ∈ said, exchange.request.sparesFiles) :
    host.files final = host.files state := by
  induction said using List.reverseRecOn generalizing final with
  | nil =>
      cases answers
      rfl
  | append_singleton said exchange ih =>
      rcases answers.split with ⟨middle, first, last⟩
      have before : host.files middle = host.files state := by
        apply ih first
        intro other mem
        apply spared
        simp [mem]
      cases last with
      | cons rest =>
          cases rest
          have sparing := spared _ List.mem_concat_self
          rw [← before, first.eq_after]
          exact looks.spared _ _ sparing

end Host

namespace CatalogueState

theorem openWindow_keeps (state : CatalogueState) (link : Link) :
    (state.openWindow link).2.catalogue = state.catalogue ∧
      (state.openWindow link).2.tree = state.tree := by
  simp only [openWindow]
  split
  · exact ⟨rfl, rfl⟩
  · exact ⟨rfl, rfl⟩

theorem answer_keeps (state : CatalogueState) (request : Request) :
    (state.answer request).2.catalogue = state.catalogue ∧
      (state.answer request).2.tree = state.tree := by
  cases request with
  | openWindow link => exact state.openWindow_keeps link
  | openKnowledgeBase =>
      simp only [answer]
      split
      · exact state.openWindow_keeps _
      · exact ⟨rfl, rfl⟩
  | classify | schema | addNote =>
      simp only [answer]
      split <;> exact ⟨rfl, rfl⟩
  | _ => exact ⟨rfl, rfl⟩

end CatalogueState

/-- A host that goes by a catalogue looks at its files where the catalogue has no list of kinds. -/
theorem catalogueHost_looksAtFiles {state : CatalogueState}
    (unlisted : state.catalogue.kinds = none) : catalogueHost.LooksAtFiles state where
  classified := by
    intro requests link
    have still : (catalogueHost.after state requests).catalogue.kinds = none := by
      induction requests using List.reverseRecOn with
      | nil => exact unlisted
      | append_singleton requests request ih =>
          rw [Host.after, List.foldl_append]
          exact (congrArg Catalogue.kinds (CatalogueState.answer_keeps _ request).1).trans ih
    generalize catalogueHost.after state requests = later at still
    simp only [catalogueHost, CatalogueState.answer, still]
  spared := by
    intro requests request _
    exact (CatalogueState.answer_keeps _ request).2

namespace Verb

section Handlings

variable {host : Host σ} {history : List Exchange} {context : Context}

/-- The handling launches nothing. -/
def Withholds (host : Host σ) (history : List Exchange) (context : Context)
    (handling : Handling σ Unit) : Prop :=
  Handling.Follows host (fun _ request => request.isLaunch = false) (fun _ _ _ => True)
    (fun _ _ _ => True) history context handling

theorem establish_withholds {locator : Locator} {next : Window → Handling σ Unit}
    (rest : ∀ history window context, Withholds host history context (next window)) :
    Withholds host history context (Handling.establish host locator >>= next) := by
  apply Handling.Follows.establish_bind
  · intro history request lookup
    cases request <;> simp_all [Request.isLookup, Request.isLaunch]
  · exact fun _ _ => rfl
  · exact fun _ _ _ => trivial
  · exact fun _ _ _ _ => trivial
  · exact fun _ _ window _ => rest _ window _

theorem focusFound_withholds {window : Window} {found : Option NoteRef} {missing : String} :
    Withholds host history context (Handling.focusFound host window found missing) :=
  .focusFound (fun _ => rfl) (fun _ => trivial) fun _ _ _ => trivial

theorem requireCollection_withholds {label : String} {next : Window → Handling σ Unit}
    (rest : ∀ window, Withholds host history context (next window)) :
    Withholds host history context (Handling.requireCollection label >>= next) :=
  .requireCollection_bind (fun _ => trivial) fun window _ => rest window

theorem openTimestamp_withholds {window : Window} {timestamp : String} :
    Withholds host history context (openTimestamp host window timestamp) := by
  refine .ask_bind rfl fun schema => ?_
  dsimp only
  split
  · exact .throw_bind trivial
  · exact .ask_bind rfl fun found => focusFound_withholds

theorem openNotePath_withholds {path : String} :
    Withholds host history context (openNotePath host path) := by
  refine .files_bind fun tree => ?_
  dsimp only
  split
  · exact .throw_bind trivial
  · split
    · exact .throw trivial
    · exact establish_withholds fun _ _ _ => .ask_bind rfl fun found => focusFound_withholds

theorem openAttachment_withholds {window : Window} {title : String} :
    Withholds host history context (openAttachment host window title) := by
  refine .ask_bind rfl fun selected => ?_
  dsimp only
  split
  · exact .throw_bind trivial
  · refine .ask_bind rfl fun opened => ?_
    split
    · exact .throw trivial
    · exact .pure trivial

theorem openParameter_withholds (parameter : Parameter) :
    Withholds host history context (openParameter host parameter) := by
  simp only [openParameter]
  split
  · exact establish_withholds fun _ _ _ => .pure trivial
  · split
    · exact requireCollection_withholds fun _ => .ask_bind rfl fun _ => focusFound_withholds
    · exact requireCollection_withholds fun _ => openTimestamp_withholds
    · exact openNotePath_withholds
    · exact requireCollection_withholds fun _ => openAttachment_withholds
    · refine requireCollection_withholds fun window => ?_
      split
      · exact .ask (.selectRandom window false) rfl fun _ => trivial
      · exact .ask (.selectRandom window true) rfl fun _ => trivial
      · exact .ask (.selectNote window) rfl fun _ => trivial
      · exact .throw trivial
    · split
      · exact requireCollection_withholds fun window =>
          .ask (.ensureQuotesMode window) rfl fun _ => trivial
      · exact .throw trivial
    · exact .throw trivial

theorem expandParameter_withholds (parameter : Parameter) :
    Withholds host history context (expandParameter host parameter) := by
  simp only [expandParameter]
  split
  · exact establish_withholds fun _ _ _ => .pure trivial
  · split
    · exact requireCollection_withholds fun window =>
        .ask_bind rfl fun _ => .ask (.expandTag window _) rfl fun _ => trivial
    · exact .throw trivial

theorem helpParameter_withholds (parameter : Parameter) :
    Withholds host history context (helpParameter host parameter) := by
  simp only [helpParameter]
  split
  · exact requireCollection_withholds fun _ => .ask_bind rfl fun _ => focusFound_withholds
  · exact .throw trivial

theorem addParameter_withholds (parameter : Parameter) :
    Withholds host history context (addParameter host parameter) := by
  simp only [addParameter]
  split
  · refine establish_withholds fun _ window _ => .ask_bind rfl fun schema => .modify_bind ?_
    split
    · exact .throw trivial
    · exact .pure trivial
  · refine .get_bind ?_
    split
    · exact .throw trivial
    · split
      · exact .modify trivial
      · exact .throw trivial

theorem findParameter_withholds (parameter : Parameter) :
    Withholds host history context (findParameter host parameter) := by
  simp only [findParameter]
  split
  · refine .ask_bind rfl fun note => .ask_bind rfl fun revealed => ?_
    split
    · exact .throw trivial
    · exact .pure trivial
  · exact .throw trivial

/-- No verb but `run` launches anything at a parameter. -/
theorem parameter_withholds {verb : Verb} (other : verb ≠ run) (parameter : Parameter) :
    Withholds host history context ((verb.procedure host).parameter parameter) := by
  cases verb with
  | add => exact addParameter_withholds parameter
  | help => exact helpParameter_withholds parameter
  | expand => exact expandParameter_withholds parameter
  | openNote => exact openParameter_withholds parameter
  | prefs => exact .throw trivial
  | run => exact absurd rfl other
  | find => exact findParameter_withholds parameter

theorem start_withholds (verb : Verb) :
    Dialogue.Follows host (fun _ request => request.isLaunch = false) (fun _ _ => True) history
      (verb.procedure host).start := by
  cases verb with
  | help =>
      refine .ask rfl fun answer => ?_
      cases answer <;> exact .pure trivial
  | _ => exact .pure trivial

theorem finish_withholds {verb : Verb} (other : verb ≠ run) (context : Context) :
    Dialogue.Follows host (fun _ request => request.isLaunch = false) (fun _ _ => True) history
      ((verb.procedure host).finish context) := by
  cases verb with
  | add =>
      simp only [procedure, addProcedure, commitDraft]
      split
      · refine .ask rfl fun answer => ?_
        cases answer <;> exact .pure trivial
      · exact .pure trivial
  | run => exact absurd rfl other
  | prefs => exact .ask rfl fun _ => .pure trivial
  | _ => exact .pure trivial

/-- A parameter of `run` leaves the files alone. If it fails the script is the one that was chosen
before; otherwise it is that one still, or the one that the parameter names. -/
theorem runParameter_gathers (parameter : Parameter) :
    Handling.Follows host (fun _ request => request.sparesFiles)
      (fun _ _ left => left.script = context.script)
      (fun said _ left => left.script = context.script ∨
        parameter.label = "path" ∧ Chooses parameter.value said left)
      [] context (runParameter host parameter) := by
  simp only [runParameter]
  split
  · split
    · exact .modify (Or.inl rfl)
    · exact .modify (Or.inl rfl)
    · exact .throw rfl
  · next label =>
      unfold chooseScript
      cases led : Link.ofText? parameter.value with
      | none => exact .throw rfl
      | some link =>
          refine .ask_bind rfl fun kind => ?_
          split
          · next script =>
              subst script
              exact .modify (Or.inr ⟨label, chooses_of_ofText? led rfl⟩)
          · exact .throw rfl
  · exact .throw rfl

end Handlings

section Runs

variable {host : Host σ} {begun : Conversation σ} {taken : List Parameter} {standing : Standing σ}

/-- The parameter names the script: it says the path, with or without the marker in front. -/
def NamesScript (parameter : Parameter) (script : String) : Prop :=
  parameter.label = "path" ∧ script = Link.withoutMarker parameter.value

/-- Since `begun` the files have been left alone, and the script in the context, if there is one, is
a script among these files and was named by one of the parameters taken. -/
structure Ready (host : Host σ) (begun : Conversation σ) (taken : List Parameter)
    (standing : Standing σ) : Prop where
  calm : ∃ said, Conversation.GoesOn host (fun request => request.sparesFiles) begun
    standing.conversation said
  chosen : ∀ script, standing.context.script = some script →
    (host.files begun.state).HoldsScript script ∧ ∃ parameter ∈ taken, NamesScript parameter script

/-- A script that a parameter has just chosen is one among the files. -/
theorem holdsScript_of_chooses (looks : host.LooksAtFiles begun.state)
    {before after : Conversation σ} {earlier said : List Exchange}
    (calm : Conversation.GoesOn host (fun request => request.sparesFiles) begun before earlier)
    (answered : host.Answers before.state said after.state) {path : String} {left : Context}
    (chooses : Chooses path said left) :
    ∃ script, left.script = some script ∧ script = Link.withoutMarker path ∧
      (host.files begun.state).HoldsScript script := by
  rcases chooses with ⟨named, stripped, rfl, chosen⟩
  let link : Link := { url := "file://" ++ named, path := named }
  have spelled : Link.withoutMarker path = named :=
    Link.spells_iff.mp (stripped_iff_spells.mp stripped)
  have script : (host.files before.state).classify link = .script :=
    (looks.classify_eq calm.answered link).symm.trans answered.answer_eq.symm
  rw [looks.files_eq calm.answered calm.ofKind] at script
  have holds : (host.files begun.state).HoldsScript link.path :=
    FileTree.holdsScript_of_classify script
  exact ⟨named, chosen, spelled.symm, holds⟩

theorem take_ready (looks : host.LooksAtFiles begun.state)
    (ready : Ready host begun taken standing) (parameter : Parameter) :
    Ready host begun (taken ++ [parameter]) (run.take host standing parameter) := by
  have gathers : Handling.Follows host _ _ _ [] standing.context
      ((run.procedure host).parameter parameter) := runParameter_gathers parameter
  rcases ready.calm with ⟨said, calm⟩
  have kept : ∀ script, standing.context.script = some script →
      (host.files begun.state).HoldsScript script ∧
        ∃ other ∈ taken ++ [parameter], NamesScript other script := by
    intro script held
    rcases ready.chosen script held with ⟨holds, other, mem, names⟩
    exact ⟨holds, other, by simp [mem], names⟩
  rcases took : ((run.procedure host).parameter parameter).run.run standing.context
    standing.conversation with ⟨⟨failure | _, context⟩, conversation⟩
  · rcases gathers.said_of_error took with ⟨more, talk, same⟩
    rw [take_of_error host run took]
    refine ⟨⟨_, (calm.trans (.ofSaid talk)).trans (.fail (fun _ => rfl) failure _ _)⟩, ?_⟩
    intro script held
    apply kept script
    rw [← held]
    exact same.symm
  · rcases gathers.said_of_ok took with ⟨more, talk, cases⟩
    rw [take_of_ok host run took]
    refine ⟨⟨_, calm.trans (.ofSaid talk)⟩, ?_⟩
    intro script held
    rcases cases with same | ⟨label, chooses⟩
    · apply kept script
      rw [← held]
      exact same.symm
    · rcases holdsScript_of_chooses looks calm talk.answered chooses with
        ⟨chosen, left, named, holds⟩
      have same : chosen = script := Option.some.inj (left.symm.trans held)
      subst same
      exact ⟨holds, parameter, by simp, label, named⟩

theorem takes_ready (looks : host.LooksAtFiles begun.state)
    (ready : Ready host begun taken standing) (parameters : List Parameter) :
    Ready host begun (taken ++ parameters) (parameters.foldl (run.take host) standing) := by
  apply takes_induction ?_ ready
  intro taken standing parameter ready
  exact take_ready looks ready parameter

/-- At the end `run` launches the script that it has, and that is all. -/
theorem ending_run (standing : Standing σ) :
    run.ending host standing = (((), standing.report),
      match standing.context.script with
      | some script =>
        (Dialogue.ask host (.launch script standing.context.immediate) standing.conversation).2
      | none => standing.conversation) := by
  cases held : standing.context.script with
  | none =>
      simp only [ending, procedure, runProcedure, launchScript, held]
      rfl
  | some script =>
      simp only [ending, procedure, runProcedure, launchScript, held]
      rfl

/-- What is said about a launch: it is the only one, the file is a script at that moment, and a
parameter names it. -/
def LaunchesScript (host : Host σ) (begun : Conversation σ) (parameters : List Parameter)
    (said : List Exchange) : Prop :=
  ∀ before exchange after script immediate, said = before ++ exchange :: after →
    exchange.request = .launch script immediate →
      (∀ other ∈ before ++ after, other.request.isLaunch = false) ∧
      (∃ state, host.Answers begun.state before state ∧ (host.files state).HoldsScript script) ∧
      ∃ parameter ∈ parameters, NamesScript parameter script

theorem isLaunch_of_sparesFiles {request : Request} (spares : request.sparesFiles) :
    request.isLaunch = false := by
  cases request <;> simp_all [Request.sparesFiles, Request.isLaunch]

theorem launchesScript_of_none {parameters : List Parameter} {said : List Exchange}
    (none : ∀ exchange ∈ said, exchange.request.isLaunch = false) :
    LaunchesScript host begun parameters said := by
  rintro before exchange after script immediate rfl launched
  have other := none exchange (by simp)
  simp [launched, Request.isLaunch] at other

theorem launchesScript_of_last {early : List Exchange} {script : String} {immediate : Bool}
    {later : Conversation σ} (looks : host.LooksAtFiles begun.state)
    (calm : Conversation.GoesOn host (fun request => request.sparesFiles) begun later early)
    (holds : (host.files begun.state).HoldsScript script)
    (named : ∃ parameter ∈ taken, NamesScript parameter script) :
    LaunchesScript host begun taken (early ++ [⟨.launch script immediate, ()⟩]) := by
  have none : ∀ exchange ∈ early, exchange.request.isLaunch = false := by
    intro exchange mem
    exact isLaunch_of_sparesFiles (calm.ofKind exchange mem)
  intro before exchange after path soon split launched
  rcases List.eq_nil_or_concat after with rfl | ⟨rest, last, rfl⟩
  · rcases List.append_inj' split rfl with ⟨rfl, same⟩
    simp only [List.cons.injEq, and_true] at same
    subst same
    cases launched
    refine ⟨by simpa using none, ⟨later.state, calm.answered, ?_⟩, named⟩
    rw [looks.files_eq calm.answered calm.ofKind]
    exact holds
  · -- the launch is the last thing that is said, so nothing that is followed by another is one
    rw [List.concat_eq_append, ← List.cons_append, ← List.append_assoc] at split
    rcases List.append_inj' split rfl with ⟨rfl, _⟩
    have other := none exchange (by simp)
    simp [launched, Request.isLaunch] at other

theorem carryOut_run_launches (looks : host.LooksAtFiles begun.state)
    (parameters : List Parameter) (report : Report) :
    ∃ said, Conversation.GoesOn host (fun _ => True) begun
        (run.carryOut host parameters report begun).2 said ∧
      LaunchesScript host begun parameters said := by
  let first : Standing σ := ⟨{}, { report with verb := run.name }, begun⟩
  let last := parameters.foldl (run.take host) first
  have fresh : Ready host begun [] first :=
    ⟨⟨[], .refl begun⟩, by intro script held; cases held⟩
  have ready : Ready host begun parameters last := by
    simpa using takes_ready looks fresh parameters
  have ended : run.carryOut host parameters report begun = run.ending host last :=
    carryOut_of_standing rfl
  rcases ready.calm with ⟨early, calm⟩
  rw [ended, ending_run]
  cases held : last.context.script with
  | none =>
      refine ⟨early, calm.mono fun _ _ => trivial, launchesScript_of_none ?_⟩
      intro exchange mem
      exact isLaunch_of_sparesFiles (calm.ofKind exchange mem)
  | some script =>
      rcases ready.chosen script held with ⟨holds, named⟩
      have launch : Conversation.GoesOn host (fun _ => True) last.conversation
          (Dialogue.ask host (.launch script last.context.immediate) last.conversation).2
          [⟨.launch script last.context.immediate, ()⟩] :=
        ⟨rfl, .cons .nil, fun _ _ => trivial⟩
      exact ⟨_, (calm.mono fun _ _ => trivial).trans launch,
        launchesScript_of_last looks calm holds named⟩

theorem carryOut_other_launches {verb : Verb} (other : verb ≠ run) (parameters : List Parameter)
    (report : Report) (conversation : Conversation σ) :
    ∃ said, Conversation.GoesOn host (fun request => request.isLaunch = false) conversation
      (verb.carryOut host parameters report conversation).2 said :=
  carryOut_goesOn (fun _ => rfl) (start_withholds verb)
    (fun parameter _ _ => parameter_withholds other parameter) (finish_withholds other)
    parameters report conversation

end Runs

end Verb

theorem Command.address_of_parse {raw expected : String} {command : Command}
    (read : parse raw expected = .ok command) :
    ∃ located, address raw = .ok located ∧
      command.parameters = Query.parameters located.query := by
  unfold parse at read
  cases found : address raw with
  | error failure =>
      rw [found] at read
      cases read
  | ok located =>
      simp only [found, bind, Except.bind] at read
      split at read
      · cases read
      · split at read
        · cases read
        · cases read
          exact ⟨located, rfl, rfl⟩

namespace Interpreter

/-- Whatever text is acted on, a script is launched by the verb `run` alone and at most once. At
that moment it is a regular file with the name of a script, and it is at the path that a parameter
of the command was decoded to, without the marker if there is one in front. -/
theorem act_launches_scripts (host : Host σ) (settings : Settings) (raw : String)
    (conversation : Conversation σ) (looks : host.LooksAtFiles conversation.state) :
    let outcome := (act host settings raw conversation).1
    let final := (act host settings raw conversation).2
    ∃ said, final.exchanges = conversation.exchanges ++ said ∧
      host.Answers conversation.state said final.state ∧
      ∀ before exchange after script immediate, said = before ++ exchange :: after →
        exchange.request = .launch script immediate →
        outcome.verb = some .run ∧
        (∀ other ∈ before ++ after, other.request.isLaunch = false) ∧
        (∃ state, host.Answers conversation.state before state ∧
          (host.files state).HoldsScript script) ∧
        ∃ command address encoded value,
          Command.parse raw settings.urlScheme = .ok command ∧
          ⟨"path", value⟩ ∈ command.parameters ∧
          Command.address raw = .ok address ∧
          "path".toList ++ '=' :: encoded ∈ Text.split '&' address.query ∧
          Percent.decode? encoded = some value.toList ∧
          (value = Link.marker ++ script ∨
            value = script ∧ ¬ Link.marker.toList <+: value.toList) := by
  intro outcome final
  rcases request_cases settings raw with
    ⟨failure, refused, _⟩ | ⟨command, verb, accepted, read, named⟩
  · have told : final = _ := congrArg Prod.snd (act_of_refused refused conversation)
    let report : Report := { alerting := settings.alertOnError }
    have alarm : Conversation.GoesOn host (fun request => request.isLaunch = false) conversation
        (Report.fail host failure report conversation).2 (report.alarm failure) :=
      .fail (fun _ => rfl) failure report conversation
    rw [told]
    refine ⟨_, alarm.exchanges, alarm.answered, ?_⟩
    rintro before exchange after script immediate split launched
    have other := alarm.ofKind exchange (by simp [split])
    simp [launched, Request.isLaunch] at other
  · have acted : outcome = _ := act_of_accepted accepted conversation
    have ended : final = _ := act_snd_of_accepted accepted conversation
    rw [ended]
    by_cases running : verb = .run
    · subst running
      rcases Verb.carryOut_run_launches looks command.parameters
        { alerting := settings.alertOnError } with ⟨said, goesOn, launches⟩
      refine ⟨said, goesOn.exchanges, goesOn.answered, ?_⟩
      intro before exchange after script immediate split launched
      rcases launches before exchange after script immediate split launched with
        ⟨once, there, ⟨label, value⟩, mem, rfl, rfl⟩
      rcases Command.address_of_parse read with ⟨address, located, decoded⟩
      rcases Query.piece_of_mem_parameters (decoded ▸ mem) with ⟨encoded, cut, spelled⟩
      refine ⟨by simp [acted], once, there, command, address, encoded, value, read, mem, located,
        cut, spelled, Link.withoutMarker_cases value⟩
    · rcases Verb.carryOut_other_launches running command.parameters
        { alerting := settings.alertOnError } conversation with ⟨said, goesOn⟩
      refine ⟨said, goesOn.exchanges, goesOn.answered, ?_⟩
      intro before exchange after script immediate split launched
      have other := goesOn.ofKind exchange (by simp [split])
      simp [launched, Request.isLaunch] at other

/-- A script whose extension is in upper case, at a path that is escaped and has the marker. -/
theorem act_launches_upper_case :
    let state : CatalogueState :=
      { catalogue := {}, preferences := {}, lastSelected := none,
        tree := (FileTree.ofWorking []).put ["a.TCZ".toList] (.file []) }
    let looked : List Exchange := [⟨.classify ⟨"file:///a.TCZ", "/a.TCZ", .unknown⟩, .script⟩]
    catalogueHost.LooksAtFiles state ∧
      (act catalogueHost { alertOnError := false } "notenik://run?path=file%3A%2F%2F/a.TCZ"
        { state }).2.exchanges = looked ++ [⟨.launch "/a.TCZ" false, ()⟩] ∧
      (act catalogueHost { alertOnError := false } "notenik://run?path=file%3A%2F%2F/a.TCZ"
        { state }).1.verb = some .run ∧
      ∃ moment, catalogueHost.Answers state looked moment ∧
        (catalogueHost.files moment).HoldsScript "/a.TCZ" := by
  intro state looked
  have looks : catalogueHost.LooksAtFiles state := catalogueHost_looksAtFiles rfl
  have asked : request { alertOnError := false } "notenik://run?path=file%3A%2F%2F/a.TCZ" =
      .ok (.run, [⟨"path", "file:///a.TCZ"⟩]) := rfl
  have carried :
      (Verb.run.carryOut catalogueHost [⟨"path", "file:///a.TCZ"⟩] { alerting := false }
        { state :=
            { catalogue := {}, preferences := {}, lastSelected := none,
              tree := (FileTree.ofWorking []).put ["a.TCZ".toList] (.file []) } }).2.exchanges =
        [⟨.classify ⟨"file:///a.TCZ", "/a.TCZ", .unknown⟩, .script⟩,
          ⟨.launch "/a.TCZ" false, ()⟩] := rfl
  have told : (act catalogueHost { alertOnError := false }
      "notenik://run?path=file%3A%2F%2F/a.TCZ" { state }).2.exchanges = _ :=
    act_exchanges_of_accepted asked { state }
  have spoken := told.trans carried
  rcases act_launches_scripts catalogueHost _ _ { state } looks with ⟨said, grown, _, launches⟩
  have all : [] ++ said = looked ++ [⟨.launch "/a.TCZ" false, ()⟩] := grown.symm.trans spoken
  rcases launches looked ⟨.launch "/a.TCZ" false, ()⟩ [] "/a.TCZ" false all rfl with
    ⟨running, _, there, _⟩
  exact ⟨looks, spoken, running, there⟩

end Interpreter

end CommandUrl

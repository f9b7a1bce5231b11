import CommandUrl.Proofs.Verb.Refusal
import CommandUrl.Proofs.Verb.Standing

/-!
# The window in force

A verb that works in a collection gets windows from its host and asks about
them. The window in force is the one that was handed out last, and it is the
only one that the verb ever asks the notes or a view about; before there is one
it asks neither. The context of the verb is the memory of this window, and it
agrees with what has been said at every point between two parameters, so a
collection that could not be opened never displaces the one before it.
-/

namespace CommandUrl

variable {σ : Type}

/-- The window that a request to the notes or to a view is about. -/
def Request.window? : Request → Option Window
  | focus window _ | showNavigation window | expandTag window _ | openAttachment window _
  | selectRandom window _ | selectNote window | ensureQuotesMode window | schema window
  | noteKnownAs window _ | noteForId window _ | noteForTimestamp window _ | selectedNote window
  | addNote window _ => some window
  | _ => none

namespace Verb

/-- The window that an exchange hands to a verb. The knowledge base is what `help` works in; the
other verbs work in the windows of links. -/
def handed? (verb : Verb) : Exchange → Option Window
  | ⟨.openWindow _, answer⟩ => if verb = help then none else answer
  | ⟨.openKnowledgeBase, answer⟩ => if verb = help then answer else none
  | _ => none

/-- The window in force: the one that was handed out last. -/
def inForce? (verb : Verb) (said : List Exchange) : Option Window :=
  (said.filterMap verb.handed?).getLast?

theorem inForce?_append (verb : Verb) (history said : List Exchange) :
    verb.inForce? (history ++ said) = (verb.inForce? said).or (verb.inForce? history) := by
  simp [inForce?, List.getLast?_append]

theorem inForce?_ask {verb : Verb} {history : List Exchange} {exchange : Exchange}
    (unhanded : verb.handed? exchange = none) :
    verb.inForce? (history ++ [exchange]) = verb.inForce? history := by
  simp [inForce?, unhanded]

theorem inForce?_of_lookups {verb : Verb} {history sought : List Exchange}
    (looked : Lookups history sought) : verb.inForce? sought = verb.inForce? history := by
  rcases looked with ⟨said, rfl, lookups⟩
  have nothing : said.filterMap verb.handed? = [] := by
    rw [List.filterMap_eq_nil_iff]
    rintro ⟨request, answer⟩ mem
    have lookup := lookups _ mem
    cases request <;> simp_all [Request.isLookup, handed?]
  simp [inForce?, nothing]

theorem inForce?_of_refused {verb : Verb} {history sought : List Exchange} {link : Link}
    (looked : Lookups history sought) :
    verb.inForce? (sought ++ [⟨.openWindow link, none⟩]) = verb.inForce? history := by
  rw [inForce?_ask (by simp [handed?])]
  exact inForce?_of_lookups looked

theorem inForce?_of_opened {verb : Verb} (browsing : verb ≠ help) (history : List Exchange)
    (link : Link) (window : Window) :
    verb.inForce? (history ++ [⟨.openWindow link, some window⟩]) = some window := by
  simp [inForce?, handed?, browsing]

theorem handed?_of_window? {verb : Verb} {request : Request} {answer : request.Answer}
    {window : Window} (about : request.window? = some window) :
    verb.handed? ⟨request, answer⟩ = none := by
  cases request <;> first | rfl | simp [Request.window?] at about

/-- Only the window in force is asked about. -/
def Guided (verb : Verb) (history : List Exchange) (request : Request) : Prop :=
  ∀ window, request.window? = some window → verb.inForce? history = some window

/-- The context knows the window in force. -/
def Tracks (verb : Verb) (history : List Exchange) (context : Context) : Prop :=
  context.collection = verb.inForce? history

/-- The verb works in a window: the window is in force, and the context knows it. -/
structure Works (verb : Verb) (window : Window) (history : List Exchange) (context : Context) :
    Prop where
  known : context.collection = some window
  inForce : verb.inForce? history = some window

section Works

variable {verb : Verb} {window : Window} {history : List Exchange} {context : Context}

theorem Works.tracks (works : verb.Works window history context) : verb.Tracks history context :=
  works.known.trans works.inForce.symm

theorem Works.guided (works : verb.Works window history context) {request : Request}
    (about : request.window? = some window) : verb.Guided history request := by
  intro other same
  rw [about] at same
  cases same
  exact works.inForce

theorem Works.ask (works : verb.Works window history context) {request : Request}
    (about : request.window? = some window) (answer : request.Answer) :
    verb.Works window (history ++ [⟨request, answer⟩]) context where
  known := works.known
  inForce := (inForce?_ask (handed?_of_window? about)).trans works.inForce

theorem Tracks.ask (tracks : verb.Tracks history context) {exchange : Exchange}
    (unhanded : verb.handed? exchange = none) : verb.Tracks (history ++ [exchange]) context :=
  tracks.trans (inForce?_ask unhanded).symm

theorem Tracks.works (tracks : verb.Tracks history context)
    (known : context.collection = some window) : verb.Works window history context :=
  ⟨known, tracks.symm.trans known⟩

theorem guided_of_window? {request : Request} (about : request.window? = none) :
    verb.Guided history request := by
  intro window same
  rw [about] at same
  cases same

theorem guided_of_isLookup (history : List Exchange) (request : Request)
    (lookup : request.isLookup) : verb.Guided history request := by
  apply guided_of_window?
  cases request <;> first | rfl | simp [Request.isLookup] at lookup

end Works

/-- The handling asks about nothing but the window in force, and the context that it leaves knows
the window in force then, also where it fails. -/
def Steers (host : Host σ) (verb : Verb) (history : List Exchange) (context : Context)
    (handling : Handling σ Unit) : Prop :=
  Handling.Follows host verb.Guided (fun later _ left => verb.Tracks later left)
    (fun later _ left => verb.Tracks later left) history context handling

section Steers

variable {host : Host σ} {verb : Verb} {window : Window} {history : List Exchange}
  {context : Context}

theorem ask_steers {request : Request} {next : request.Answer → Handling σ Unit}
    (works : verb.Works window history context) (about : request.window? = some window)
    (rest : ∀ answer, verb.Works window (history ++ [⟨request, answer⟩]) context →
      Steers host verb (history ++ [⟨request, answer⟩]) context (next answer)) :
    Steers host verb history context (Handling.ask host request >>= next) :=
  .ask_bind (works.guided about) fun answer => rest answer (works.ask about answer)

theorem establish_steers {locator : Locator} {next : Window → Handling σ Unit}
    (browsing : verb ≠ help) (tracks : verb.Tracks history context)
    (rest : ∀ window later left, verb.Works window later left →
      Steers host verb later left (next window)) :
    Steers host verb history context (Handling.establish host locator >>= next) := by
  refine .establish_bind guided_of_isLookup (fun _ _ => guided_of_window? rfl) ?_ ?_ ?_
  · intro sought _ looked
    exact tracks.trans (inForce?_of_lookups looked).symm
  · intro sought link _ looked
    exact tracks.trans (inForce?_of_refused looked).symm
  · intro sought link window _
    exact rest window _ _ ⟨rfl, inForce?_of_opened browsing sought link window⟩

theorem requireCollection_steers {label : String} {next : Window → Handling σ Unit}
    (tracks : verb.Tracks history context)
    (rest : ∀ window, verb.Works window history context →
      Steers host verb history context (next window)) :
    Steers host verb history context (Handling.requireCollection label >>= next) :=
  .requireCollection_bind (fun _ => tracks) fun window known => rest window (tracks.works known)

theorem focusFound_steers {found : Option NoteRef} {missing : String}
    (works : verb.Works window history context) :
    Steers host verb history context (Handling.focusFound host window found missing) :=
  .focusFound (fun _ => works.guided rfl) (fun _ => works.tracks)
    fun _ answer _ => (works.ask rfl answer).tracks

theorem openTimestamp_steers {timestamp : String} (works : verb.Works window history context) :
    Steers host verb history context (openTimestamp host window timestamp) := by
  refine ask_steers works rfl fun schema works => ?_
  dsimp only
  split
  · exact .throw_bind works.tracks
  · exact ask_steers works rfl fun found works => focusFound_steers works

theorem openNotePath_steers {path : String} (browsing : verb ≠ help)
    (tracks : verb.Tracks history context) :
    Steers host verb history context (openNotePath host path) := by
  refine .files_bind fun tree => ?_
  dsimp only
  split
  · exact .throw_bind tracks
  · split
    · exact .throw tracks
    · exact establish_steers browsing tracks fun window _ _ works =>
        ask_steers works rfl fun found works => focusFound_steers works

theorem openAttachment_steers {title : String} (works : verb.Works window history context) :
    Steers host verb history context (openAttachment host window title) := by
  refine ask_steers works rfl fun selected works => ?_
  dsimp only
  split
  · exact .throw_bind works.tracks
  · refine ask_steers works rfl fun opened works => ?_
    split
    · exact .throw works.tracks
    · exact .pure works.tracks

theorem openParameter_steers (parameter : Parameter) (browsing : verb ≠ help)
    (tracks : verb.Tracks history context) :
    Steers host verb history context (openParameter host parameter) := by
  simp only [openParameter]
  split
  · exact establish_steers browsing tracks fun window _ _ works => .pure works.tracks
  · split
    · exact requireCollection_steers tracks fun window works =>
        ask_steers works rfl fun found works => focusFound_steers works
    · exact requireCollection_steers tracks fun window works => openTimestamp_steers works
    · exact openNotePath_steers browsing tracks
    · exact requireCollection_steers tracks fun window works => openAttachment_steers works
    · refine requireCollection_steers tracks fun window works => ?_
      split
      · exact .ask (.selectRandom window false) (works.guided rfl) fun answer =>
          (works.ask rfl answer).tracks
      · exact .ask (.selectRandom window true) (works.guided rfl) fun answer =>
          (works.ask rfl answer).tracks
      · exact .ask (.selectNote window) (works.guided rfl) fun answer =>
          (works.ask rfl answer).tracks
      · exact .throw works.tracks
    · split
      · exact requireCollection_steers tracks fun window works =>
          .ask (.ensureQuotesMode window) (works.guided rfl) fun answer =>
            (works.ask rfl answer).tracks
      · exact .throw tracks
    · exact .throw tracks

theorem expandParameter_steers (parameter : Parameter) (browsing : verb ≠ help)
    (tracks : verb.Tracks history context) :
    Steers host verb history context (expandParameter host parameter) := by
  simp only [expandParameter]
  split
  · exact establish_steers browsing tracks fun window _ _ works => .pure works.tracks
  · split
    · exact requireCollection_steers tracks fun window works =>
        ask_steers works rfl fun _ works =>
          .ask (.expandTag window _) (works.guided rfl) fun answer =>
            (works.ask rfl answer).tracks
    · exact .throw tracks

theorem helpParameter_steers (parameter : Parameter) (tracks : verb.Tracks history context) :
    Steers host verb history context (helpParameter host parameter) := by
  simp only [helpParameter]
  split
  · exact requireCollection_steers tracks fun window works =>
      ask_steers works rfl fun found works => focusFound_steers works
  · exact .throw tracks

theorem beginDraft_steers {locator : Locator} (browsing : verb ≠ help)
    (tracks : verb.Tracks history context) :
    Steers host verb history context (beginDraft host locator) := by
  refine establish_steers browsing tracks fun window _ _ works =>
    ask_steers works rfl fun schema works => .modify_bind ?_
  split
  · exact .throw works.tracks
  · exact .pure works.tracks

theorem writeDraft_steers (parameter : Parameter) (tracks : verb.Tracks history context) :
    Steers host verb history context (writeDraft parameter) := by
  refine .get_bind ?_
  split
  · exact .throw tracks
  · split
    · exact .modify tracks
    · exact .throw tracks

theorem addParameter_steers (parameter : Parameter) (browsing : verb ≠ help)
    (tracks : verb.Tracks history context) :
    Steers host verb history context (addParameter host parameter) := by
  simp only [addParameter]
  split
  · exact beginDraft_steers browsing tracks
  · exact writeDraft_steers parameter tracks

theorem runParameter_steers (parameter : Parameter) (tracks : verb.Tracks history context) :
    Steers host verb history context (runParameter host parameter) := by
  simp only [runParameter]
  split
  · split
    · exact .modify tracks
    · exact .modify tracks
    · exact .throw tracks
  · simp only [chooseScript]
    split
    · exact .throw tracks
    · refine .ask_bind (guided_of_window? rfl) fun kind => ?_
      split
      · exact .modify (tracks.ask rfl)
      · exact .throw (tracks.ask rfl)
  · exact .throw tracks

theorem findParameter_steers (parameter : Parameter) (tracks : verb.Tracks history context) :
    Steers host verb history context (findParameter host parameter) := by
  simp only [findParameter]
  split
  · refine .ask_bind (guided_of_window? rfl) fun note =>
      .ask_bind (guided_of_window? rfl) fun revealed => ?_
    split
    · exact .throw ((tracks.ask rfl).ask rfl)
    · exact .pure ((tracks.ask rfl).ask rfl)
  · exact .throw tracks

/-- Whatever a verb does with a parameter, it asks about nothing but the window in force and
remembers the window in force. -/
theorem parameter_steers (parameter : Parameter) (tracks : verb.Tracks history context) :
    Steers host verb history context ((verb.procedure host).parameter parameter) := by
  cases verb with
  | add => exact addParameter_steers parameter (by simp) tracks
  | help => exact helpParameter_steers parameter tracks
  | expand => exact expandParameter_steers parameter (by simp) tracks
  | openNote => exact openParameter_steers parameter (by simp) tracks
  | prefs => exact .throw tracks
  | run => exact runParameter_steers parameter tracks
  | find => exact findParameter_steers parameter tracks

theorem start_steers (host : Host σ) (verb : Verb) :
    Dialogue.Follows host verb.Guided
      (fun history begun => ∀ context, begun = .ok context → verb.Tracks history context) []
      (verb.procedure host).start := by
  cases verb with
  | help =>
      refine .ask (guided_of_window? rfl) fun answer => ?_
      cases answer with
      | some window => exact .pure (by rintro context ⟨⟩; rfl)
      | none => exact .pure (by simp)
  | _ => exact .pure (by rintro context ⟨⟩; rfl)

theorem finish_steers (tracks : verb.Tracks history context) :
    Dialogue.Follows host verb.Guided (fun _ _ => True) history
      ((verb.procedure host).finish context) := by
  cases verb with
  | add =>
      simp only [procedure, addProcedure, commitDraft]
      split
      · next window draft known _ =>
          refine .ask ((tracks.works known).guided rfl) fun answer => ?_
          cases answer with
          | some note => exact .pure trivial
          | none => exact .pure trivial
      · exact .pure trivial
  | run =>
      simp only [procedure, runProcedure, launchScript]
      split
      · exact .ask (guided_of_window? rfl) fun _ => .pure trivial
      · exact .pure trivial
  | prefs => exact .ask (guided_of_window? rfl) fun _ => .pure trivial
  | _ => exact .pure trivial

end Steers

section Runs

variable (host : Host σ) {verb : Verb} {history : List Exchange} {standing : Standing σ}

theorem keeps_alarm (report : Report) (failure : Failure) :
    Dialogue.Keeps verb.Guided history (report.alarm failure) := by
  unfold Report.alarm
  split
  · exact Dialogue.keeps_cons (guided_of_window? rfl) Dialogue.keeps_nil
  · exact Dialogue.keeps_nil

theorem inForce?_alarm (report : Report) (failure : Failure) :
    verb.inForce? (report.alarm failure) = none := by
  unfold Report.alarm
  split <;> rfl

/-- Taking a parameter asks about nothing but the window in force, and the context still knows it. -/
theorem take_guided (parameter : Parameter) (tracks : verb.Tracks history standing.context) :
    ∃ said,
      (verb.take host standing parameter).conversation.exchanges =
        standing.conversation.exchanges ++ said ∧
      Dialogue.Keeps verb.Guided history said ∧
      verb.Tracks (history ++ said) (verb.take host standing parameter).context := by
  have steers : Steers host verb history standing.context
      ((verb.procedure host).parameter parameter) := parameter_steers parameter tracks
  rcases taken : ((verb.procedure host).parameter parameter).run.run standing.context
    standing.conversation with ⟨⟨failure | _, context⟩, conversation⟩
  -- the alert of a failure hands out no window
  · rcases steers.said_of_error taken with ⟨said, talk, known⟩
    rw [take_of_error host verb taken]
    refine ⟨said ++ standing.report.alarm failure, ?_, ?_, ?_⟩
    · simp only [Report.fail_exchanges, talk.exchanges, List.append_assoc]
    · exact Dialogue.keeps_append talk.kept (keeps_alarm _ _)
    · rw [← List.append_assoc, Tracks, inForce?_append, inForce?_alarm, Option.none_or]
      exact known
  · rcases steers.said_of_ok taken with ⟨said, talk, known⟩
    rw [take_of_ok host verb taken]
    exact ⟨said, talk.exchanges, talk.kept, known⟩

theorem takes_guided (parameters : List Parameter)
    (tracks : verb.Tracks history standing.context) :
    ∃ said,
      (parameters.foldl (verb.take host) standing).conversation.exchanges =
        standing.conversation.exchanges ++ said ∧
      Dialogue.Keeps verb.Guided history said ∧
      verb.Tracks (history ++ said) (parameters.foldl (verb.take host) standing).context := by
  -- each parameter is taken after a longer history, which the context still tracks
  induction parameters generalizing history standing with
  | nil => exact ⟨[], by simp, Dialogue.keeps_nil, by simpa using tracks⟩
  | cons parameter parameters ih =>
      rcases take_guided host parameter tracks with ⟨said, grown, kept, known⟩
      rcases ih known with ⟨more, longer, further, last⟩
      refine ⟨said ++ more, ?_, Dialogue.keeps_append kept further, ?_⟩
      · rw [List.foldl_cons, longer, grown, List.append_assoc]
      · rw [List.foldl_cons, ← List.append_assoc]
        exact last

theorem conclude_guided (entry : Option ReportEntry) (report : Report)
    (conversation : Conversation σ) :
    ∃ said,
      (Procedure.conclude host entry report conversation).2.exchanges =
        conversation.exchanges ++ said ∧
      Dialogue.Keeps verb.Guided history said := by
  rcases entry with _ | ⟨message | failure⟩
  · exact ⟨[], (List.append_nil _).symm, Dialogue.keeps_nil⟩
  · exact ⟨[], (List.append_nil _).symm, Dialogue.keeps_nil⟩
  · exact ⟨report.alarm failure, Report.fail_exchanges host failure report conversation,
      keeps_alarm report failure⟩

theorem ending_guided (tracks : verb.Tracks history standing.context) :
    ∃ said,
      (verb.ending host standing).2.exchanges = standing.conversation.exchanges ++ said ∧
      Dialogue.Keeps verb.Guided history said := by
  have steers : Dialogue.Follows host verb.Guided (fun _ _ => True) history
      ((verb.procedure host).finish standing.context) := finish_steers tracks
  let ended := (verb.procedure host).finish standing.context standing.conversation
  rcases steers.said standing.conversation with ⟨said, talk, _⟩
  rcases conclude_guided host ended.1 standing.report ended.2 with ⟨more, grown, kept⟩
  refine ⟨said ++ more, grown.trans ?_, Dialogue.keeps_append talk.kept kept⟩
  rw [talk.exchanges, List.append_assoc]

variable {report : Report} {conversation : Conversation σ}

/-- Wherever a verb stands, it has asked about nothing but the window in force, and its context
knows the window in force. -/
theorem standing_guided {parameters : List Parameter}
    (stands : verb.standing host parameters report conversation = some standing) :
    ∃ said,
      standing.conversation.exchanges = conversation.exchanges ++ said ∧
      Dialogue.Keeps verb.Guided [] said ∧ verb.Tracks said standing.context := by
  rcases standing_cases stands with ⟨context, later, started, rfl⟩
  rcases (start_steers host verb).said conversation with ⟨said, talk, begun⟩
  rw [started] at talk begun
  let first : Standing σ :=
    { context, report := { report with verb := verb.name }, conversation := later }
  have known : verb.Tracks said first.context := begun context rfl
  rcases takes_guided host parameters known with ⟨more, grown, kept, tracks⟩
  refine ⟨said ++ more, grown.trans ?_, Dialogue.keeps_append talk.kept kept, tracks⟩
  rw [talk.exchanges, List.append_assoc]

theorem nowhere_guided {parameters : List Parameter}
    (nowhere : verb.standing host parameters report conversation = none) :
    ∃ said,
      (verb.carryOut host parameters report conversation).2.exchanges =
        conversation.exchanges ++ said ∧
      Dialogue.Keeps verb.Guided [] said := by
  rcases carryOut_of_nowhere nowhere with ⟨failure, later, started, carried⟩
  rcases (start_steers host verb).said conversation with ⟨said, talk, _⟩
  rw [started] at talk
  refine ⟨said ++ report.alarm failure, ?_, Dialogue.keeps_append talk.kept (keeps_alarm _ _)⟩
  rw [carried, Report.fail_exchanges, talk.exchanges, List.append_assoc]
  rfl

/-- Everything that a verb asks about a window, it asks about the window in force then. Wherever it
stands it knows the window in force, and a parameter changes that only by being handed another
window, so one that fails to open its collection leaves the earlier collection to the parameters
after it. -/
theorem carryOut_guided (verb : Verb) (parameters : List Parameter) (report : Report)
    (conversation : Conversation σ) :
    (∃ said,
      (verb.carryOut host parameters report conversation).2.exchanges =
        conversation.exchanges ++ said ∧
      ∀ before exchange after window, said = before ++ exchange :: after →
        exchange.request.window? = some window → verb.inForce? before = some window) ∧
    ∀ earlier parameter later here, parameters = earlier ++ parameter :: later →
      verb.standing host earlier report conversation = some here →
      ∃ there said more rest,
        verb.standing host (earlier ++ [parameter]) report conversation = some there ∧
        here.conversation.exchanges = conversation.exchanges ++ said ∧
        there.conversation.exchanges = conversation.exchanges ++ said ++ more ∧
        (verb.carryOut host parameters report conversation).2.exchanges =
          conversation.exchanges ++ said ++ more ++ rest ∧
        here.context.collection = verb.inForce? said ∧
        there.context.collection = (verb.inForce? more).or (verb.inForce? said) := by
  constructor
  · cases stands : verb.standing host parameters report conversation with
    | none =>
        rcases nowhere_guided host stands with ⟨said, grown, kept⟩
        exact ⟨said, grown, fun before exchange after window split =>
          kept before exchange after split window⟩
    | some last =>
        rcases standing_guided host stands with ⟨said, grown, kept, tracks⟩
        rcases ending_guided host tracks with ⟨more, longer, further⟩
        refine ⟨said ++ more, ?_, fun before exchange after window split =>
          Dialogue.keeps_append kept further before exchange after split window⟩
        rw [carryOut_of_standing stands, longer, grown, List.append_assoc]
  · rintro earlier parameter later here rfl stands
    rcases standing_guided host stands with ⟨said, grown, _, tracks⟩
    rcases take_guided host parameter tracks with ⟨more, longer, _, known⟩
    rcases takes_guided host later known with ⟨most, longest, _, last⟩
    rcases ending_guided host last with ⟨final, ended, _⟩
    have moved : verb.standing host (earlier ++ [parameter]) report conversation =
        some (verb.take host here parameter) := by
      rw [standing_append, stands]
      rfl
    have lasted : verb.standing host (earlier ++ parameter :: later) report conversation =
        some ((parameter :: later).foldl (verb.take host) here) := by
      rw [standing_append, stands]
      rfl
    refine ⟨verb.take host here parameter, said, more, most ++ final, moved, grown, ?_, ?_,
      tracks, known.trans (inForce?_append verb said more)⟩
    · rw [longer, grown]
    · rw [carryOut_of_standing lasted, List.foldl_cons, ended, longest, longer, grown,
        List.append_assoc _ most]

end Runs

end Verb

end CommandUrl

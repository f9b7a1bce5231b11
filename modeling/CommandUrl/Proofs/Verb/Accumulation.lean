import CommandUrl.Proofs.Verb.Launch

/-!
# What `run` gathers

The verb `run` gathers two things that have nothing to do with each other, the
script and how soon it is to run, and launches the script when all parameters
have been taken. If what a link leads to depends on the link alone, then what a
parameter contributes, or how it fails, depends on the parameter alone: the
script is the last one that is named, the time is the last one that is said, and
parameters that contribute nothing are in nobody's way.

So the order of the parameters matters only among those that name a script and
among those that say a time. The proof follows the contributions through the
run; that reordering does no harm is then a fact about lists.
-/

namespace CommandUrl

variable {σ : Type} {kindOf : Link → LinkKind}

/-- From the state on, whatever it is asked, the host tells what a link leads to by the link
alone. -/
def Host.ClassifiesBy (host : Host σ) (kindOf : Link → LinkKind) (state : σ) : Prop :=
  ∀ requests link, (host.answer (host.after state requests) (.classify link)).1 = kindOf link

/-- What was said of the kinds of links is as `kindOf` has it. -/
def Told (kindOf : Link → LinkKind) (said : List Exchange) : Prop :=
  ∀ link kind, ⟨.classify link, kind⟩ ∈ said → kind = kindOf link

namespace Host.ClassifiesBy

variable {host : Host σ} {state final : σ} {said : List Exchange}

theorem told (classifies : host.ClassifiesBy kindOf state)
    (answers : host.Answers state said final) : Told kindOf said := by
  intro link kind mem
  rcases List.append_of_mem mem with ⟨before, after, rfl⟩
  rcases answers.split with ⟨middle, first, rest⟩
  have answer : kind = (host.answer middle (.classify link)).1 := rest.answer_eq
  rw [answer, first.eq_after]
  exact classifies _ link

theorem later (classifies : host.ClassifiesBy kindOf state)
    (answers : host.Answers state said final) : host.ClassifiesBy kindOf final := by
  intro requests link
  rw [answers.eq_after, Host.after, Host.after, ← List.foldl_append]
  exact classifies _ link

end Host.ClassifiesBy

/-- A host that goes by a catalogue tells kinds by the link, from its list or from its files. -/
theorem catalogueHost_classifiesBy (state : CatalogueState) :
    catalogueHost.ClassifiesBy
      (fun link => (catalogueHost.answer state (.classify link)).1) state := by
  intro requests link
  have kept : (catalogueHost.after state requests).catalogue = state.catalogue ∧
      (catalogueHost.after state requests).tree = state.tree := by
    induction requests using List.reverseRecOn with
    | nil => exact ⟨rfl, rfl⟩
    | append_singleton requests request ih =>
        rw [Host.after, List.foldl_append]
        rcases CatalogueState.answer_keeps (catalogueHost.after state requests) request with
          ⟨catalogue, tree⟩
        exact ⟨catalogue.trans ih.1, tree.trans ih.2⟩
  simp only [catalogueHost, CatalogueState.answer] at kept ⊢
  rw [kept.1, kept.2]
  split <;> rfl

namespace Parameter

/-- The script that a parameter of `run` names. -/
def script? (kindOf : Link → LinkKind) (parameter : Parameter) : Option String :=
  if parameter.label = "path" then
    ((Link.ofText? parameter.value).filter (kindOf · = .script)).map Link.path
  else none

/-- Whether the script is to run at once, if the parameter says so or the contrary. -/
def atOnce? (parameter : Parameter) : Option Bool :=
  if parameter.label = "go" then
    match parameter.value with
    | "now" => some true
    | "wait" => some false
    | _ => none
  else none

/-- How a parameter of `run` fails that neither names a script nor says a time. -/
def runFailure? (kindOf : Link → LinkKind) (parameter : Parameter) : Option Failure :=
  if (parameter.script? kindOf).isSome ∨ parameter.atOnce?.isSome then none
  else some <|
    match parameter.label with
    | "go" => .invalidParameterValue "run" "go" parameter.value
    | "path" => .scriptPathInvalid <|
      if (Link.ofText? parameter.value).isSome then
        "Run path of '" ++ parameter.value ++ "' does not point to a valid script file"
      else "Run path of '" ++ parameter.value ++ "' could not be resolved"
    | label => .unrecognizedParameter "run" label

theorem isSome_script?_iff {parameter : Parameter} :
    (parameter.script? kindOf).isSome ↔
      parameter.label = "path" ∧
        ∃ link, Link.ofText? parameter.value = some link ∧ kindOf link = .script := by
  simp [script?, Option.isSome_iff_exists, Option.filter_eq_some_iff]

theorem filterMap_script? (parameters : List Parameter) :
    parameters.filterMap (·.script? kindOf) =
      (parameters.filter (·.label = "path")).filterMap (·.script? kindOf) := by
  rw [List.filterMap_filter]
  congr
  funext parameter
  by_cases path : parameter.label = "path" <;> simp [script?, path]

theorem filterMap_atOnce? (parameters : List Parameter) :
    parameters.filterMap (·.atOnce?) =
      (parameters.filter (·.label = "go")).filterMap (·.atOnce?) := by
  rw [List.filterMap_filter]
  congr
  funext parameter
  by_cases go : parameter.label = "go" <;> simp [atOnce?, go]

/-- What the parameters contribute to a launch: nothing, or the script that was named last, which is
to run at once if that was said last. -/
def launch? (kindOf : Link → LinkKind) (parameters : List Parameter) : Option Exchange :=
  (parameters.filterMap (·.script? kindOf)).getLast?.map fun script =>
    ⟨.launch script ((parameters.filterMap (·.atOnce?)).getLast? == some true), ()⟩

theorem isLaunch_of_launch?_eq_some {parameters : List Parameter} {exchange : Exchange}
    (launched : launch? kindOf parameters = some exchange) : exchange.request.isLaunch := by
  rcases Option.map_eq_some_iff.mp launched with ⟨script, _, rfl⟩
  rfl

/-- A launch does not depend on how paths and times are mixed. -/
theorem launch?_eq_of_filter_eq {parameters reordered : List Parameter}
    (go : reordered.filter (·.label = "go") = parameters.filter (·.label = "go"))
    (path : reordered.filter (·.label = "path") = parameters.filter (·.label = "path")) :
    launch? kindOf reordered = launch? kindOf parameters := by
  unfold launch?
  rw [filterMap_script? reordered, path, ← filterMap_script?, filterMap_atOnce? reordered, go,
    ← filterMap_atOnce?]

end Parameter

/-- The context with what a parameter of `run` contributes. -/
def Context.gather (kindOf : Link → LinkKind) (context : Context) (parameter : Parameter) : Context :=
  { context with
    script := (parameter.script? kindOf).or context.script
    immediate := parameter.atOnce?.getD context.immediate }

namespace Context

/-- A parameter that fails contributes nothing. -/
theorem gather_of_runFailure? {parameter : Parameter} {failure : Failure}
    (failed : parameter.runFailure? kindOf = some failure) (context : Context) :
    context.gather kindOf parameter = context := by
  unfold Parameter.runFailure? at failed
  split at failed
  · cases failed
  · next silent =>
      simp only [not_or, Option.not_isSome_iff_eq_none] at silent
      simp [gather, silent]

theorem script_foldl_gather (context : Context) (parameters : List Parameter) :
    (parameters.foldl (gather kindOf) context).script =
      (parameters.filterMap (·.script? kindOf)).getLast?.or context.script := by
  induction parameters using List.reverseRecOn with
  | nil => rfl
  | append_singleton parameters parameter ih =>
      cases named : parameter.script? kindOf <;> simp [gather, ih, named]

theorem immediate_foldl_gather (context : Context) (parameters : List Parameter) :
    (parameters.foldl (gather kindOf) context).immediate =
      (parameters.filterMap (·.atOnce?)).getLast?.getD context.immediate := by
  induction parameters using List.reverseRecOn with
  | nil => rfl
  | append_singleton parameters parameter ih =>
      cases said : parameter.atOnce? <;> simp [gather, ih, said]

end Context

/-- What was launched in a conversation, in order. -/
def Conversation.launches (conversation : Conversation σ) : List Exchange :=
  conversation.exchanges.filter (·.request.isLaunch)

namespace Verb

variable {host : Host σ} {context : Context}

/-- A parameter of `run` contributes what it says, or fails and contributes nothing. -/
theorem runParameter_accumulates (kindOf : Link → LinkKind) (parameter : Parameter) :
    Handling.Follows host (fun _ request => request.sparesFiles)
      (fun said failure left => Told kindOf said →
        parameter.runFailure? kindOf = some failure ∧ left = context)
      (fun said _ left => Told kindOf said →
        parameter.runFailure? kindOf = none ∧ left = context.gather kindOf parameter)
      [] context (runParameter host parameter) := by
  rcases parameter with ⟨label, value⟩
  simp only [runParameter]
  split
  · split
    · exact .modify fun _ => ⟨rfl, rfl⟩
    · exact .modify fun _ => ⟨rfl, rfl⟩
    · refine .throw fun _ => ⟨?_, rfl⟩
      simp_all [Parameter.runFailure?, Parameter.script?, Parameter.atOnce?, name]
  · unfold chooseScript
    cases led : Link.ofText? value with
    | none =>
        refine .throw fun _ => ⟨?_, rfl⟩
        simp [Parameter.runFailure?, Parameter.script?, Parameter.atOnce?, led]
    | some link =>
        refine .ask_bind rfl fun kind => ?_
        have heard : Told kindOf [⟨.classify link, kind⟩] → kind = kindOf link :=
          fun told => told link kind List.mem_cons_self
        split
        · next script =>
            refine .modify fun told => ?_
            have leads : kindOf link = .script := (heard told).symm.trans script
            have named : (⟨"path", value⟩ : Parameter).script? kindOf = some link.path := by
              simp [Parameter.script?, led, Option.filter, leads]
            simp [Parameter.runFailure?, Context.gather, Parameter.atOnce?, named]
        · next other =>
            refine .throw fun told => ⟨?_, rfl⟩
            have astray : kindOf link ≠ .script := fun leads => other ((heard told).trans leads)
            simp [Parameter.runFailure?, Parameter.script?, Parameter.atOnce?, led, Option.filter,
              astray]
  · next notGo notPath =>
      refine .throw fun _ => ⟨?_, rfl⟩
      simp_all [Parameter.runFailure?, Parameter.script?, Parameter.atOnce?, name]

/-- Since `begun` the files have been left alone, and all there is to see of the parameters taken is
what they contributed and how they failed, each of them by itself. -/
structure Gathered (host : Host σ) (kindOf : Link → LinkKind) (begun : Standing σ)
    (taken : List Parameter) (standing : Standing σ) : Prop where
  calm : ∃ said, Conversation.GoesOn host (fun request => request.sparesFiles) begun.conversation
    standing.conversation said
  context : standing.context = taken.foldl (Context.gather kindOf) begun.context
  entries : standing.report.entries =
    begun.report.entries ++ (taken.filterMap (·.runFailure? kindOf)).map .failure

section Runs

variable {begun standing : Standing σ} {taken : List Parameter}

theorem gathered_refl (begun : Standing σ) : Gathered host kindOf begun [] begun where
  calm := ⟨[], .refl _⟩
  context := rfl
  entries := (List.append_nil _).symm

theorem take_gathered (classifies : host.ClassifiesBy kindOf begun.conversation.state)
    (gathered : Gathered host kindOf begun taken standing) (parameter : Parameter) :
    Gathered host kindOf begun (taken ++ [parameter]) (run.take host standing parameter) := by
  have accumulates : Handling.Follows host _ _ _ [] standing.context
      ((run.procedure host).parameter parameter) := runParameter_accumulates kindOf parameter
  rcases gathered.calm with ⟨earlier, calm⟩
  have classifies := classifies.later calm.answered
  rcases took : ((run.procedure host).parameter parameter).run.run standing.context
    standing.conversation with ⟨⟨failure | _, context⟩, conversation⟩
  · rcases accumulates.said_of_error took with ⟨said, talk, ended⟩
    rcases ended (classifies.told talk.answered) with ⟨failed, rfl⟩
    rw [take_of_error host run took]
    exact {
      calm := ⟨_, (calm.trans (.ofSaid talk)).trans (.fail (fun _ => rfl) failure _ _)⟩
      context := by
        rw [List.foldl_append, ← gathered.context]
        exact (Context.gather_of_runFailure? failed _).symm
      entries := by simp [gathered.entries, failed] }
  · rcases accumulates.said_of_ok took with ⟨said, talk, ended⟩
    rcases ended (classifies.told talk.answered) with ⟨succeeded, rfl⟩
    rw [take_of_ok host run took]
    exact {
      calm := ⟨_, calm.trans (.ofSaid talk)⟩
      context := by simp [gathered.context]
      entries := by simp [gathered.entries, succeeded] }

theorem takes_gathered (classifies : host.ClassifiesBy kindOf begun.conversation.state)
    (gathered : Gathered host kindOf begun taken standing) (parameters : List Parameter) :
    Gathered host kindOf begun (taken ++ parameters)
      (parameters.foldl (run.take host) standing) := by
  apply takes_induction ?_ gathered
  intro taken standing parameter gathered
  exact take_gathered classifies gathered parameter

theorem standing_run {conversation : Conversation σ}
    (classifies : host.ClassifiesBy kindOf conversation.state) (parameters : List Parameter)
    (report : Report) :
    ∃ last, run.standing host parameters report conversation = some last ∧
      Gathered host kindOf ⟨{}, { report with verb := run.name }, conversation⟩ parameters last := by
  refine ⟨_, rfl, ?_⟩
  simpa using takes_gathered classifies (gathered_refl _) parameters

end Runs

/-- After its last parameter `run` makes the launch that the parameters contribute to. -/
theorem carryOut_run_exchanges {conversation : Conversation σ}
    (classifies : host.ClassifiesBy kindOf conversation.state) (parameters : List Parameter)
    (report : Report) :
    ∃ last early, run.standing host parameters report conversation = some last ∧
      last.conversation.exchanges = conversation.exchanges ++ early ∧
      (∀ exchange ∈ early, exchange.request.isLaunch = false) ∧
      (run.carryOut host parameters report conversation).2.exchanges =
        last.conversation.exchanges ++ (Parameter.launch? kindOf parameters).toList := by
  rcases standing_run classifies parameters report with ⟨last, stands, gathered⟩
  rcases gathered.calm with ⟨early, calm⟩
  refine ⟨last, early, stands, calm.exchanges, ?_, ?_⟩
  · intro exchange mem
    exact isLaunch_of_sparesFiles (calm.ofKind exchange mem)
  · have script := congrArg Context.script gathered.context
    have immediate := congrArg Context.immediate gathered.context
    simp only [Context.script_foldl_gather, Option.or_none] at script
    simp only [Context.immediate_foldl_gather] at immediate
    have soon : ∀ said : Option Bool, said.getD false = (said == some true) := by
      rintro (_ | _ | _) <;> rfl
    rw [carryOut_of_standing stands, ending_run, script, immediate, soon]
    unfold Parameter.launch?
    split
    · next script named =>
        rw [named]
        rfl
    · next unnamed =>
        rw [unnamed]
        exact (List.append_nil _).symm

theorem carryOut_run_entries {conversation : Conversation σ}
    (classifies : host.ClassifiesBy kindOf conversation.state) (parameters : List Parameter)
    (report : Report) :
    (run.carryOut host parameters report conversation).1.2.entries =
      report.entries ++ (parameters.filterMap (·.runFailure? kindOf)).map .failure := by
  rcases standing_run classifies parameters report with ⟨last, stands, gathered⟩
  rw [carryOut_of_standing stands, ending_run, gathered.entries]

theorem carryOut_run_launch {conversation : Conversation σ}
    (classifies : host.ClassifiesBy kindOf conversation.state) (parameters : List Parameter)
    (report : Report) :
    (run.carryOut host parameters report conversation).2.launches =
      conversation.launches ++ (Parameter.launch? kindOf parameters).toList := by
  rcases carryOut_run_exchanges classifies parameters report with
    ⟨last, early, _, grown, withheld, ended⟩
  have nothing : early.filter (·.request.isLaunch) = [] := by
    simpa [List.filter_eq_nil_iff] using withheld
  have launch : (Parameter.launch? kindOf parameters).toList.filter (·.request.isLaunch) =
      (Parameter.launch? kindOf parameters).toList := by
    simpa [List.filter_eq_self] using fun exchange => Parameter.isLaunch_of_launch?_eq_some
  simp only [Conversation.launches, ended, grown, List.filter_append, nothing, launch,
    List.append_nil]

/-- The verb `run` launches once at most, after its last parameter: the script that was named last,
at once if that was said last. It does not matter how the parameters that name scripts are mixed
with those that say a time and with any others; the failures are then the same, in another order. -/
theorem carryOut_run_accumulates (host : Host σ) (kindOf : Link → LinkKind)
    (conversation : Conversation σ) (classifies : host.ClassifiesBy kindOf conversation.state)
    (parameters : List Parameter) (report : Report) :
    let carried := run.carryOut host parameters report conversation
    let script? := (parameters.filterMap (·.script? kindOf)).getLast?
    let immediate := (parameters.filterMap (·.atOnce?)).getLast? == some true
    (∃ last early, run.standing host parameters report conversation = some last ∧
      last.conversation.exchanges = conversation.exchanges ++ early ∧
      (∀ exchange ∈ early, exchange.request.isLaunch = false) ∧
      carried.2.exchanges = last.conversation.exchanges ++
        (script?.map fun script => ⟨.launch script immediate, ()⟩).toList) ∧
    (script?.isSome ↔ ∃ parameter ∈ parameters, parameter.label = "path" ∧
      ∃ link, Link.ofText? parameter.value = some link ∧ kindOf link = .script) ∧
    ∀ reordered, reordered.Perm parameters →
      reordered.filter (·.label = "go") = parameters.filter (·.label = "go") →
      reordered.filter (·.label = "path") = parameters.filter (·.label = "path") →
      let other := run.carryOut host reordered report conversation
      other.2.launches = carried.2.launches ∧ other.1.2.entries.Perm carried.1.2.entries := by
  intro carried script? immediate
  refine ⟨carryOut_run_exchanges classifies parameters report, ?_, ?_⟩
  · simp only [script?, List.getLast?_isSome, ne_eq, List.filterMap_eq_nil_iff]
    simp only [← Parameter.isSome_script?_iff]
    simp [Option.isSome_iff_ne_none]
  · intro reordered perm go path other
    constructor
    · rw [carryOut_run_launch classifies, carryOut_run_launch classifies,
        Parameter.launch?_eq_of_filter_eq go path]
    · rw [carryOut_run_entries classifies, carryOut_run_entries classifies]
      exact ((perm.filterMap _).map _).append_left _

/-- Two scripts, between which and after which there is much that does not count. -/
theorem carryOut_run_accumulates_mixed :
    let state : CatalogueState :=
      { catalogue := { kinds := some [("/a.scpt", .script), ("/b.scpt", .script)] },
        preferences := {}, lastSelected := none, tree := FileTree.ofWorking [] }
    let mixed : List Parameter :=
      [⟨"path", "/a.scpt"⟩, ⟨"go", "now"⟩, ⟨"speed", "fast"⟩, ⟨"path", "file:///b.scpt"⟩,
        ⟨"go", "later"⟩, ⟨"path", " "⟩]
    let sorted : List Parameter :=
      [⟨"go", "now"⟩, ⟨"go", "later"⟩, ⟨"path", "/a.scpt"⟩, ⟨"path", "file:///b.scpt"⟩,
        ⟨"path", " "⟩, ⟨"speed", "fast"⟩]
    let carried (parameters : List Parameter) :=
      run.carryOut catalogueHost parameters { alerting := true } { state }
    catalogueHost.ClassifiesBy (fun link => (catalogueHost.answer state (.classify link)).1) state ∧
      (carried sorted).2.launches = [⟨.launch "/b.scpt" true, ()⟩] ∧
      (carried mixed).2.launches = (carried sorted).2.launches ∧
      (carried mixed).1.2.entries.Perm (carried sorted).1.2.entries := by
  intro state mixed sorted carried
  have classifies := catalogueHost_classifiesBy state
  rcases carryOut_run_accumulates catalogueHost _ { state } classifies sorted { alerting := true }
    with ⟨_, _, reordering⟩
  rcases reordering mixed (by decide) rfl rfl with ⟨launches, entries⟩
  exact ⟨classifies, rfl, launches, entries⟩

end Verb

end CommandUrl

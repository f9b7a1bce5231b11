import CommandUrl.Host.Catalogue
import CommandUrl.Proofs.Locator.Lookups

/-!
# The order of the sources

A locator names the sources of its link, and these stand in one list: the two
registries of shortcuts, the registry of paths, the folders with an alias. They
are asked from left to right until one of them gives a link. Only if none does
is the path itself made into a link, and that is the only link that is looked at
to see what it leads to.

The list is a function of the locator alone. What is said to the host is told by
how far the list was gone through, so the trace of a look-up is a prefix of the
list in which every answer but the last is empty. The proof goes through the
locator in its own shape: where two sources are tried one after the other their
lists are put together.
-/

namespace CommandUrl

variable {σ : Type} {host : Host σ}

/-- Something that may know a link. -/
inductive Locator.Source where
  /-- The collections that are opened together. -/
  | multi (shortcut : String)
  /-- The single collections. -/
  | single (shortcut : String)
  | known (path : String)
  | special (folder : SpecialFolder)
  deriving Repr, DecidableEq

/-- The source has been asked, and has given this. -/
def Locator.Source.gave : Source → Option Link → Exchange
  | multi shortcut, found => ⟨.multiLink shortcut, found⟩
  | single shortcut, found => ⟨.shortcutLink shortcut, found⟩
  | known path, found => ⟨.pathLink path, found⟩
  | special folder, found => ⟨.specialLink folder, found⟩

namespace Locator

/-- The name, if it is there and not empty. -/
def named (name : Option String) : List String :=
  name.toList.filter (· ≠ "")

/-- The sources of the link of a shortcut. -/
def shortcutSources (shortcut : String) : List Source :=
  [.multi shortcut, .single shortcut]

/-- The source of the link of an alias; other names than the aliases have none. -/
def specialSources (name : String) : List Source :=
  (SpecialFolder.ofName? name).toList.map .special

/-- The sources that may know the link of a locator, in the order in which they are asked. -/
def sources (locator : Locator) : List Source :=
  (named locator.shortcut).flatMap shortcutSources ++
    ((named locator.path).map .known ++ (named locator.special).flatMap specialSources)

/-- Of the sources, some were asked in order: all of them in vain, or one gave a link after those
before it had been asked in vain. -/
inductive Searched (sources : List Source) : List Exchange → Option Link → Prop where
  | nowhere : Searched sources (sources.map (·.gave none)) none
  | found {before after : List Source} {source : Source} {link : Link}
      (split : sources = before ++ source :: after) :
      Searched sources (before.map (·.gave none) ++ [source.gave (some link)]) (some link)

namespace Searched

variable {one other : List Source} {said more : List Exchange} {found : Option Link} {link : Link}

theorem single (source : Source) (found : Option Link) :
    Searched [source] [source.gave found] found := by
  cases found with
  | none => exact .nowhere
  | some link =>
      have first : [source] = [] ++ source :: [] := rfl
      exact .found first

theorem before (first : Searched one said (some link)) (other : List Source) :
    Searched (one ++ other) said (some link) := by
  cases first with
  | found split =>
      subst split
      rw [List.append_assoc, List.cons_append]
      exact .found rfl

theorem after (first : Searched one said none) (rest : Searched other more found) :
    Searched (one ++ other) (said ++ more) found := by
  cases first with
  | nowhere =>
      cases rest with
      | nowhere =>
          rw [← List.map_append]
          exact .nowhere
      | found split =>
          subst split
          rw [← List.append_assoc, ← List.append_assoc, ← List.map_append]
          exact .found rfl

end Searched

/-- The dialogue asks the sources for a link, in order, until one of them gives it. -/
def Consults (host : Host σ) (sources : List Source) (dialogue : Dialogue σ (Option Link)) : Prop :=
  ∀ history, Dialogue.Follows host (fun _ _ => True)
    (fun later found => ∃ said, later = history ++ said ∧ Searched sources said found)
    history dialogue

theorem consults_none : Consults host [] (pure none) :=
  fun history => .pure ⟨[], by simp, .nowhere⟩

theorem consults_orElse {one other : List Source} {first second : Dialogue σ (Option Link)}
    (consultsFirst : Consults host one first) (consultsSecond : Consults host other second) :
    Consults host (one ++ other) (orElse first second) := by
  intro history
  refine (consultsFirst history).bind ?_
  rintro middle found ⟨said, rfl, searched⟩
  cases found with
  | some link => exact .pure ⟨said, rfl, searched.before other⟩
  | none =>
      refine (consultsSecond _).mono (fun _ _ asked => asked) ?_
      rintro later found ⟨more, rfl, continued⟩
      exact ⟨said ++ more, by simp, searched.after continued⟩

theorem consults_consult {source : String → Dialogue σ (Option Link)}
    {sources : String → List Source} (consults : ∀ name, Consults host (sources name) (source name))
    (name : Option String) :
    Consults host ((named name).flatMap sources) (consult name source) := by
  cases name with
  | none => exact consults_none
  | some name =>
      by_cases empty : name = ""
      · subst empty
        exact consults_none
      · simpa [consult, named, empty] using consults name

theorem consults_shortcutLink (shortcut : String) :
    Consults host (shortcutSources shortcut) (shortcutLink host shortcut) := by
  have multi : Consults host [.multi shortcut] (Dialogue.ask host (.multiLink shortcut)) :=
    fun _ => .asking (.multiLink shortcut) trivial fun found => ⟨_, rfl, .single _ found⟩
  have single : Consults host [.single shortcut] (Dialogue.ask host (.shortcutLink shortcut)) :=
    fun _ => .asking (.shortcutLink shortcut) trivial fun found => ⟨_, rfl, .single _ found⟩
  exact consults_orElse multi single

theorem consults_specialLink (name : String) :
    Consults host (specialSources name) (specialLink host name) := by
  unfold specialLink specialSources
  cases SpecialFolder.ofName? name with
  | none => exact consults_none
  | some folder =>
      exact fun _ => .asking (.specialLink folder) trivial fun found =>
        ⟨_, rfl, .single (.special folder) found⟩

theorem consults_pathLink (path : String) :
    Consults host [.known path] (Dialogue.ask host (.pathLink path)) :=
  fun _ => .asking (.pathLink path) trivial fun found => ⟨_, rfl, .single _ found⟩

theorem orElse_assoc (first second third : Dialogue σ (Option Link)) :
    orElse first (orElse second third) = orElse (orElse first second) third := by
  simp only [orElse, bind_assoc]
  congr
  funext found
  cases found with
  | none => rfl
  | some link => exact (pure_bind _ _).symm

/-- A link was sought: a source gave it, or the path was made into it and looked at when no source
had given any, or there is none. -/
inductive Located (locator : Locator) : List Exchange → Option Link → Prop where
  | given {said : List Exchange} {link : Link}
      (searched : Searched locator.sources said (some link)) : Located locator said (some link)
  | literal {said : List Exchange} {link : Link} {kind : LinkKind}
      (searched : Searched locator.sources said none)
      (led : locator.path.bind Link.ofText? = some link) :
      Located locator (said ++ [⟨.classify link, kind⟩]) (some { link with kind })
  | nowhere {said : List Exchange} (searched : Searched locator.sources said none)
      (blank : locator.path.bind Link.ofText? = none) : Located locator said none

/-- Looking for the link of a locator goes through its sources, and after them to its path. -/
theorem link_follows (locator : Locator) :
    Dialogue.Follows host (fun _ _ => True) (Located locator) [] (locator.link host) := by
  let paths := consult locator.path fun path => Dialogue.ask host (.pathLink path)
  let aliases := consult locator.special (specialLink host)
  let given := orElse (consult locator.shortcut (shortcutLink host)) (orElse paths aliases)
  have consultsPaths : Consults host ((named locator.path).map .known) paths := by
    rw [List.map_eq_flatMap]
    exact consults_consult consults_pathLink locator.path
  have consults : Consults host locator.sources given :=
    consults_orElse (consults_consult consults_shortcutLink locator.shortcut)
      (consults_orElse consultsPaths (consults_consult consults_specialLink locator.special))
  have regrouped : locator.link host = orElse given (literalLink host locator.path) := by
    simp only [link, given, orElse_assoc, paths, aliases]
  rw [regrouped]
  refine (consults []).bind ?_
  rintro _ found ⟨said, rfl, searched⟩
  cases found with
  | some link => exact .pure (.given searched)
  | none =>
      simp only [literalLink]
      split
      · next blank => exact .pure (.nowhere searched blank)
      · next link led => exact .ask trivial fun kind => .log rfl (.pure (.literal searched led))

theorem named_cases (name : Option String) : named name = [] ∨ ∃ given, named name = [given] := by
  rcases name with _ | name
  · exact Or.inl rfl
  · by_cases empty : name = ""
    · exact Or.inl (by simp [named, empty])
    · exact Or.inr ⟨name, by simp [named, empty]⟩

theorem nodup_sources (locator : Locator) : locator.sources.Nodup := by
  have shortcuts : ((named locator.shortcut).flatMap shortcutSources).Nodup := by
    rcases named_cases locator.shortcut with absent | ⟨shortcut, given⟩
    · simp [absent]
    · simp [given, shortcutSources]
  have paths : ((named locator.path).map Source.known).Nodup := by
    rcases named_cases locator.path with absent | ⟨path, given⟩
    · simp [absent]
    · simp [given]
  have aliases : ((named locator.special).flatMap specialSources).Nodup := by
    rcases named_cases locator.special with absent | ⟨name, given⟩
    · simp [absent]
    · cases folder : SpecialFolder.ofName? name <;> simp [given, specialSources, folder]
  refine List.nodup_append.mpr ⟨shortcuts, List.nodup_append.mpr ⟨paths, aliases, ?_⟩, ?_⟩
  · simp only [List.mem_map, List.mem_flatMap, specialSources]
    rintro _ ⟨path, _, rfl⟩ _ ⟨name, _, folder, _, rfl⟩
    simp
  · simp only [List.mem_append, List.mem_map, List.mem_flatMap, shortcutSources, specialSources]
    rintro source ⟨shortcut, _, asked⟩ _ (⟨path, _, rfl⟩ | ⟨name, _, folder, _, rfl⟩) same
    all_goals simp [same] at asked

section Resolve

variable {locator : Locator} {conversation later sought opened : Conversation σ} {link : Link}

theorem resolve_of_none (missing : locator.link host conversation = (none, later)) :
    locator.resolve host conversation =
      (.error (.collectionNotFound ("Unable to locate " ++ locator.describe)), later) := by
  simp only [resolve, bind, StateT.bind, missing]
  rfl

theorem resolve_of_some (found : locator.link host conversation = (some link, later)) :
    locator.resolve host conversation =
      ((host.answer later.state (.openWindow link)).1.elim
        (.error (.collectionNotFound ("Unable to open collection at " ++ link.url))) .ok,
      (Dialogue.ask host (.openWindow link) later).2) := by
  simp only [resolve, bind, found, StateT.bind]
  rcases asked : Dialogue.ask host (.openWindow link) later with ⟨_ | window, opened⟩
  · have refused : (host.answer later.state (.openWindow link)).1 = none := congrArg Prod.fst asked
    rw [refused]
    rfl
  · have opens : (host.answer later.state (.openWindow link)).1 = some window :=
      congrArg Prod.fst asked
    rw [opens]
    rfl

theorem resolve_of_refused (found : locator.link host conversation = (some link, sought))
    (refused : Dialogue.ask host (.openWindow link) sought = (none, opened)) :
    locator.resolve host conversation =
      (.error (.collectionNotFound ("Unable to open collection at " ++ link.url)), opened) := by
  have answer : (host.answer sought.state (.openWindow link)).1 = none := congrArg Prod.fst refused
  rw [resolve_of_some found, answer, refused]
  rfl

theorem resolve_of_opened {window : Window}
    (found : locator.link host conversation = (some link, sought))
    (opens : Dialogue.ask host (.openWindow link) sought = (some window, opened)) :
    locator.resolve host conversation = (.ok window, opened) := by
  have answer : (host.answer sought.state (.openWindow link)).1 = some window :=
    congrArg Prod.fst opens
  rw [resolve_of_some found, answer, opens]
  rfl

end Resolve

/-- A link is sought at the sources of a locator in their order, at each at most once and only if
those before it have given none, and after them the path is made into a link, which alone is looked
at. The link that is found is opened, once, and nothing else is. What cannot be resolved is a
locator without a link and one whose window is refused. -/
theorem resolve_asks_in_order (host : Host σ) (locator : Locator)
    (conversation : Conversation σ) :
    let sought := locator.link host conversation
    let resolved := locator.resolve host conversation
    let window? (link : Link) := (host.answer sought.2.state (.openWindow link)).1
    (∃ said, sought.2.exchanges = conversation.exchanges ++ said ∧
      host.Answers conversation.state said sought.2.state ∧ Located locator said sought.1) ∧
    locator.sources.Nodup ∧
    resolved.2.exchanges = sought.2.exchanges ++
      sought.1.toList.map (fun link => ⟨.openWindow link, window? link⟩) ∧
    (∀ window, resolved.1 = .ok window ↔
      ∃ link, sought.1 = some link ∧ window? link = some window) ∧
    ((∃ failure, resolved.1 = .error failure ∧ failure.code = "COLLECTION_NOT_FOUND") ↔
      sought.1 = none ∨ ∃ link, sought.1 = some link ∧ window? link = none) := by
  intro sought resolved window?
  have searched : ∃ said, sought.2.exchanges = conversation.exchanges ++ said ∧
      host.Answers conversation.state said sought.2.state ∧ Located locator said sought.1 := by
    have follows : Dialogue.Follows host _ _ [] (locator.link host) := link_follows locator
    rcases follows.said conversation with ⟨said, talk, located⟩
    exact ⟨said, talk.exchanges, talk.answered, located⟩
  refine ⟨searched, nodup_sources locator, ?_⟩
  rcases found : locator.link host conversation with ⟨_ | link, later⟩
  · have ended : resolved = _ := resolve_of_none found
    have nothing : sought = (none, later) := found
    simp [ended, nothing, Failure.code]
  · have something : sought = (some link, later) := found
    have answer : window? link = (host.answer later.state (.openWindow link)).1 := by
      simp only [window?, something]
    have ended : resolved = _ := resolve_of_some found
    have told : resolved.2.exchanges = later.exchanges ++ [⟨.openWindow link, window? link⟩] := by
      rw [ended, answer]
      rfl
    rw [← answer] at ended
    refine ⟨by simp [told, something], ?_⟩
    cases opened : window? link with
    | none => simp [ended, something, opened, Failure.code]
    | some window => simp [ended, something, opened]

/-- The folder of an alias is asked of the preferences and opened as it is given. A path that nobody
knows is looked at, and opened as what is there. -/
theorem resolve_asks_in_order_alias_and_path :
    let state : CatalogueState :=
      { catalogue := {}, preferences := { essentialFolder := some "/essentials" },
        lastSelected := none, tree := (FileTree.ofWorking []).put ["work".toList] .directory }
    let essentials : Link := ⟨"file:///essentials", "/essentials", .unknown⟩
    let work (kind : LinkKind) : Link := ⟨"file:///work", "/work", kind⟩
    let byAlias := resolve catalogueHost { special := some "essential" } { state }
    let byPath := resolve catalogueHost { path := some "/work" } { state }
    byAlias.1 = .ok ⟨1, essentials⟩ ∧
      byAlias.2.exchanges = [⟨.specialLink .essential, some essentials⟩,
        ⟨.openWindow essentials, some ⟨1, essentials⟩⟩] ∧
      byPath.1 = .ok ⟨1, work .folder⟩ ∧
      byPath.2.exchanges = [⟨.pathLink "/work", none⟩, ⟨.classify (work .unknown), .folder⟩,
        ⟨.openWindow (work .folder), some ⟨1, work .folder⟩⟩] := by
  intro state essentials work byAlias byPath
  rcases resolve_asks_in_order catalogueHost { special := some "essential" } { state } with
    ⟨_, _, toldByAlias, opensByAlias, _⟩
  rcases resolve_asks_in_order catalogueHost { path := some "/work" } { state } with
    ⟨_, _, toldByPath, opensByPath, _⟩
  refine ⟨(opensByAlias _).mpr ⟨essentials, rfl, rfl⟩, toldByAlias, ?_, toldByPath⟩
  exact (opensByPath _).mpr ⟨work .folder, rfl, rfl⟩

end Locator

end CommandUrl

import CommandUrl.Locator
import CommandUrl.Proofs.Dialogue.Protocol

/-!
# Looking collections up

A locator is resolved in two stages. The sources are consulted, which asks
nothing but lookups, and the link that they give is opened, which is a single
request. `Locator.resolve_follows_of_link` puts the two together for every locator
and every host, so that what uses a locator need not know which sources there are.
-/

namespace CommandUrl

/-- Requests for a link, or for the kind of thing that a link leads to. -/
def Request.isLookup : Request → Bool
  | multiLink _ | shortcutLink _ | pathLink _ | specialLink _ | classify _ => true
  | _ => false

/-- The later history continues the earlier one by lookups alone. -/
def Lookups (earlier later : List Exchange) : Prop :=
  ∃ said, later = earlier ++ said ∧ ∀ exchange ∈ said, exchange.request.isLookup

namespace Lookups

theorem refl (history : List Exchange) : Lookups history history :=
  ⟨[], by simp⟩

theorem trans {earlier middle later : List Exchange} (first : Lookups earlier middle)
    (second : Lookups middle later) : Lookups earlier later := by
  rcases first with ⟨said, rfl, lookups⟩
  rcases second with ⟨more, rfl, further⟩
  refine ⟨said ++ more, by simp, ?_⟩
  intro exchange mem
  rcases List.mem_append.mp mem with old | new
  · exact lookups exchange old
  · exact further exchange new

theorem ask (history : List Exchange) {request : Request} (lookup : request.isLookup)
    (answer : request.Answer) : Lookups history (history ++ [⟨request, answer⟩]) :=
  ⟨[⟨request, answer⟩], rfl, by simpa using lookup⟩

end Lookups

namespace Locator

variable {σ : Type} {host : Host σ} {asks : List Exchange → Request → Prop}
  {history : List Exchange}

/-- Resolving a locator is to seek its link and to open what was found. There are three ends: nothing
was found, the window was refused, or it is there. -/
theorem resolve_follows_of_link {sought : List Exchange → Option Link → Prop}
    {ends : List Exchange → Except Failure Window → Prop} {locator : Locator}
    (seeks : Dialogue.Follows host asks sought history (locator.link host))
    (opens : ∀ history link, asks history (.openWindow link))
    (unknown : ∀ said description, sought said none →
      ends said (.error (.collectionNotFound description)))
    (refused : ∀ said link description, sought said (some link) →
      ends (said ++ [⟨.openWindow link, none⟩]) (.error (.collectionNotFound description)))
    (opened : ∀ said link window, sought said (some link) →
      ends (said ++ [⟨.openWindow link, some window⟩]) (.ok window)) :
    Dialogue.Follows host asks ends history (locator.resolve host) := by
  refine seeks.bind ?_
  intro said found sought
  cases found with
  | none => exact .pure (unknown said _ sought)
  | some link =>
      refine .ask (opens said link) fun answer => ?_
      cases answer with
      | none => exact .pure (refused said link _ sought)
      | some window => exact .pure (opened said link window sought)

/-- A source of links asks nothing but lookups. -/
def Seeks (host : Host σ) (asks : List Exchange → Request → Prop)
    (source : Dialogue σ (Option Link)) : Prop :=
  ∀ history, Dialogue.Follows host asks (fun later _ => Lookups history later) history source

theorem seeks_none : Seeks host asks (pure none) :=
  fun history => .pure (.refl history)

theorem seeks_orElse {first second : Dialogue σ (Option Link)} (seeksFirst : Seeks host asks first)
    (seeksSecond : Seeks host asks second) : Seeks host asks (orElse first second) := by
  intro history
  refine (seeksFirst history).bind ?_
  intro middle found looked
  cases found with
  | some link => exact .pure looked
  | none =>
      exact (seeksSecond middle).mono (fun _ _ asked => asked)
        fun _ _ more => looked.trans more

theorem seeks_consult {source : String → Dialogue σ (Option Link)}
    (seeks : ∀ name, Seeks host asks (source name)) (name : Option String) :
    Seeks host asks (consult name source) := by
  cases name with
  | none => exact seeks_none
  | some name =>
      simp only [consult]
      split
      · exact seeks_none
      · exact seeks name

variable (lookups : ∀ history request, request.isLookup → asks history request)

include lookups

theorem seeks_shortcutLink (shortcut : String) : Seeks host asks (shortcutLink host shortcut) :=
  seeks_orElse
    (fun history => .asking (.multiLink shortcut) (lookups _ _ rfl) (.ask history rfl))
    (fun history => .asking (.shortcutLink shortcut) (lookups _ _ rfl) (.ask history rfl))

theorem seeks_specialLink (name : String) : Seeks host asks (specialLink host name) := by
  intro history
  simp only [specialLink]
  split
  · exact .asking (.specialLink _) (lookups _ _ rfl) (.ask history rfl)
  · exact seeks_none history

theorem seeks_literalLink (path : Option String) : Seeks host asks (literalLink host path) := by
  intro history
  simp only [literalLink]
  split
  · exact seeks_none history
  · exact .ask (lookups _ _ rfl) fun kind => .log rfl (.pure (.ask history rfl kind))

theorem seeks_pathLink (path : String) :
    Seeks host asks (Dialogue.ask host (.pathLink path)) :=
  fun history => .asking (.pathLink path) (lookups _ _ rfl) (.ask history rfl)

theorem seeks_link (locator : Locator) : Seeks host asks (locator.link host) :=
  seeks_orElse (seeks_consult (seeks_shortcutLink lookups) _) <|
  seeks_orElse (seeks_consult (seeks_pathLink lookups) _) <|
  seeks_orElse (seeks_consult (seeks_specialLink lookups) _) <|
  seeks_literalLink lookups _

end Locator

end CommandUrl

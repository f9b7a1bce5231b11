import CommandUrl.Proofs.Host.Alerts
import CommandUrl.Proofs.Link.NormalForm
import CommandUrl.Proofs.Locator.Sources

/-!
# Windows and collections

A host that goes by a catalogue numbers its windows by the addresses of their links,
and tells its collections apart by the paths. Both come to the same for the windows of
locators, because the links of the catalogue are made of texts, as is the link of a path
that nobody knows, and such a link has the marker and its path for an address.

A number is where the address stands among those that windows have been opened for.
This list grows at its end only, so a number that was given once stays good, and windows
that were opened far apart can be compared.
-/

namespace CommandUrl

/-- Every link that the host has for a name is marked. -/
def Host.MarksLinks {σ : Type} (host : Host σ) : Prop :=
  ∀ state final (source : Locator.Source) link,
    host.Answers state [source.gave (some link)] final → link.Marked

namespace Locator

variable {σ : Type} {host : Host σ} {locator : Locator} {link : Link} {window : Window}

theorem Located.marked {state final : σ} {said : List Exchange} (marks : host.MarksLinks)
    (answers : host.Answers state said final) (located : Located locator said (some link)) :
    link.Marked := by
  cases located with
  | given searched =>
      cases searched with
      | found =>
          rcases answers.split with ⟨middle, _, last⟩
          exact marks _ _ _ _ last
  | @literal _ link kind _ led =>
      rcases Option.bind_eq_some_iff.mp led with ⟨text, _, made⟩
      -- the kind that was found is neither in the address nor in the path
      have marked : link.Marked := Link.marked_of_ofText? made
      exact marked

/-- The window of a locator was opened last, for a marked link. -/
theorem resolve_opens_marked {conversation later : Conversation σ} (marks : host.MarksLinks)
    (resolved : locator.resolve host conversation = (.ok window, later)) :
    ∃ sought link, link.Marked ∧
      host.Answers conversation.state (sought ++ [⟨.openWindow link, some window⟩]) later.state := by
  have follows : Dialogue.Follows host (fun _ _ => True)
      (fun said outcome => ∀ window, outcome = .ok window →
        ∃ sought link, said = sought ++ [⟨.openWindow link, some window⟩] ∧
          Located locator sought (some link)) [] (locator.resolve host) := by
    refine resolve_follows_of_link (link_follows locator) (fun _ _ => trivial) ?_ ?_ ?_
    · rintro said description _ window ⟨⟩
    · rintro said link description _ window ⟨⟩
    · rintro said link window located _ ⟨⟩
      exact ⟨said, link, rfl, located⟩
  rcases follows.said conversation with ⟨said, talk, ended⟩
  rw [resolved] at talk ended
  rcases ended window rfl with ⟨sought, link, rfl, located⟩
  rcases talk.answered.split with ⟨middle, first, _⟩
  exact ⟨sought, link, located.marked marks first, talk.answered⟩

end Locator

theorem Catalogue.linkOf_marked {entries : List (String × String)} {name : String} {link : Link}
    (found : linkOf entries name = some link) : link.Marked := by
  rcases Option.bind_eq_some_iff.mp found with ⟨text, _, led⟩
  exact Link.marked_of_ofText? led

theorem Settings.specialFolder?_marked {settings : Settings} {folder : SpecialFolder} {link : Link}
    (found : settings.specialFolder? folder = some link) : link.Marked := by
  cases folder with
  | essential | general =>
      rcases Option.bind_eq_some_iff.mp found with ⟨text, _, led⟩
      exact Link.marked_of_ofText? led

theorem catalogueHost_marksLinks : catalogueHost.MarksLinks := by
  intro state final source link answers
  have answer := answers.answer_eq.symm
  cases source with
  | multi | single | known => exact Catalogue.linkOf_marked answer
  | special => exact Settings.specialFolder?_marked answer

namespace CatalogueState

variable {state final : CatalogueState} {said : List Exchange} {link : Link} {window other : Window}

/-- The window has the number of the address of its link. -/
structure Numbered (state : CatalogueState) (window : Window) : Prop where
  opened : window.link.url ∈ state.opened
  number : window.id = 1 + state.opened.idxOf window.link.url

theorem opened_openWindow (state : CatalogueState) (link : Link) :
    state.opened <+: (state.openWindow link).2.opened := by
  simp only [openWindow]
  split
  · exact List.prefix_rfl
  · dsimp only
    split
    · exact List.prefix_rfl
    · exact List.prefix_append _ _

theorem opened_answer (state : CatalogueState) (request : Request) :
    state.opened <+: (state.answer request).2.opened := by
  cases request with
  | openWindow link => exact state.opened_openWindow link
  | openKnowledgeBase =>
      simp only [answer]
      split
      · exact state.opened_openWindow _
      · exact List.prefix_rfl
  | classify | schema | addNote =>
      simp only [answer]
      split <;> exact List.prefix_rfl
  | _ => exact List.prefix_rfl

theorem opened_of_answers (answers : catalogueHost.Answers state said final) :
    state.opened <+: final.opened := by
  induction answers with
  | nil => exact List.prefix_rfl
  | cons _ ih => exact (opened_answer _ _).trans ih

theorem Numbered.of_answers (numbered : state.Numbered window)
    (answers : catalogueHost.Answers state said final) : final.Numbered window := by
  rcases opened_of_answers answers with ⟨more, grown⟩
  constructor
  · rw [← grown]
    exact List.mem_append_left more numbered.opened
  · rw [← grown, List.idxOf_append_of_mem numbered.opened]
    exact numbered.number

theorem numbered_openWindow (opens : (state.openWindow link).1 = some window) :
    window.link = link ∧ (state.openWindow link).2.Numbered window := by
  simp only [openWindow] at opens ⊢
  split at opens
  · cases opens
  · next accepted =>
      cases opens
      rw [if_neg accepted]
      refine ⟨rfl, ?_, rfl⟩
      dsimp only
      split
      · next known => simpa using known
      · simp

theorem numbered_of_opened
    (answers : catalogueHost.Answers state (said ++ [⟨.openWindow link, some window⟩]) final) :
    window.link = link ∧ final.Numbered window := by
  rcases answers.split with ⟨middle, _, last⟩
  rw [last.eq_after]
  exact numbered_openWindow last.answer_eq.symm

theorem Numbered.id_eq_iff (numbered : state.Numbered window) (also : state.Numbered other) :
    window.id = other.id ↔ window.link.url = other.link.url := by
  rw [numbered.number, also.number, Nat.add_left_cancel_iff]
  exact List.idxOf_inj numbered.opened

/-- The window that a locator is resolved to keeps the number of its address. -/
theorem numbered_of_resolve {locator : Locator} {begun opened : Conversation CatalogueState}
    (resolved : locator.resolve catalogueHost begun = (.ok window, opened)) :
    opened.state.Numbered window ∧ window.link.Marked := by
  rcases Locator.resolve_opens_marked catalogueHost_marksLinks resolved with
    ⟨sought, link, marked, answers⟩
  rcases numbered_of_opened answers with ⟨rfl, numbered⟩
  exact ⟨numbered, marked⟩

end CatalogueState

/-- Two locators are resolved in one conversation, and anything may be said in between. Their windows
have one number exactly if their links have one path, and then the host has the same schema and the
same notes for both, at any time. -/
theorem Locator.resolve_numbers_collections {first second : Locator} {one other : Window}
    {begun opened resumed ended : Conversation CatalogueState} {said : List Exchange}
    (resolvedFirst : first.resolve catalogueHost begun = (.ok one, opened))
    (between : catalogueHost.Answers opened.state said resumed.state)
    (resolvedSecond : second.resolve catalogueHost resumed = (.ok other, ended)) :
    (one.id = other.id ↔ one.link.path = other.link.path) ∧
      (one.id = other.id → ∀ state : CatalogueState,
        (state.answer (.schema one)).1 = (state.answer (.schema other)).1 ∧
          state.catalogue.notesOf one = state.catalogue.notesOf other) := by
  rcases CatalogueState.numbered_of_resolve resolvedFirst with ⟨numberedFirst, markedFirst⟩
  rcases CatalogueState.numbered_of_resolve resolvedSecond with ⟨numberedSecond, markedSecond⟩
  rcases resolve_opens_marked catalogueHost_marksLinks resolvedSecond with ⟨_, _, _, answers⟩
  have kept := (numberedFirst.of_answers between).of_answers answers
  have byPath : one.id = other.id ↔ one.link.path = other.link.path :=
    (kept.id_eq_iff numberedSecond).trans (markedFirst.url_eq_iff markedSecond)
  refine ⟨byPath, ?_⟩
  intro same state
  have path := byPath.mp same
  constructor
  · simp only [CatalogueState.answer, path]
  · simp only [Catalogue.notesOf, path]

end CommandUrl

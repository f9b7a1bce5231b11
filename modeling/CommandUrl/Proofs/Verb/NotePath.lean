import CommandUrl.Host.Catalogue
import CommandUrl.Proofs.File.Folder
import CommandUrl.Proofs.Link.NormalForm
import CommandUrl.Proofs.Locator.Sources
import CommandUrl.Proofs.Verb.Run
import CommandUrl.Proofs.Verb.Turn

/-!
# Opening a note by the path of its file

A note may be opened by its file. Its collection is then the folder of the file: the
folder is sought like any path that names a collection, a window is opened for it,
and the note with the common form of the name of the file is focused there.

The link that is opened leads to that folder whenever it is made of the whole path of
the folder. There are two exceptions. The path of the folder may be blank, and it is
for a bare name and in a folder whose name is white space; nothing is opened then,
although the file is there. And it may begin with the marker of an address, which is
taken away, so that the link leads elsewhere.
-/

namespace CommandUrl

variable {σ : Type} {host : Host σ}

namespace Locator

variable {state final : σ} {text : String} {said : List Exchange} {found : Option Link}

theorem sources_of_path (text : String) :
    sources { path := some text } = (named (some text)).map .known := by
  simp [sources, named]

theorem searched_unknown (unknown : (host.answer state (.pathLink text)).1 = none)
    (answers : host.Answers state said final)
    (searched : Searched (sources { path := some text }) said found) :
    found = none ∧ said = (named (some text)).map fun text => ⟨.pathLink text, none⟩ := by
  generalize listed : sources { path := some text } = sources at searched
  rw [sources_of_path] at listed
  cases searched with
  | nowhere =>
      subst listed
      exact ⟨rfl, by simp [Source.gave]⟩
  | @found before after source link split =>
      -- the one source that there can be is the path, and the host does not know it
      have first : before = [] ∧ source = .known text := by
        rw [split] at listed
        by_cases empty : text = ""
        · simp [named, empty] at listed
        · cases before <;> simp [named, empty] at listed
          exact ⟨rfl, listed.1.symm⟩
      rcases first with ⟨rfl, rfl⟩
      have answer := answers.answer_eq
      simp only [Source.gave] at answer
      rw [unknown] at answer
      cases answer

/-- Where the host does not know a path, its link is the one that the path itself makes. -/
theorem located_unknown (unknown : (host.answer state (.pathLink text)).1 = none)
    (answers : host.Answers state said final)
    (located : Located { path := some text } said found) :
    Link.ofText? text = none ∧ found = none ∧
        (∀ exchange ∈ said, exchange.request = .pathLink text) ∨
      ∃ link kind, Link.ofText? text = some link ∧ found = some { link with kind } ∧
        said = [⟨.pathLink text, none⟩, ⟨.classify link, kind⟩] := by
  cases located with
  | given searched =>
      rcases searched_unknown unknown answers searched with ⟨impossible, _⟩
      cases impossible
  | @literal asked link kind searched led =>
      rcases answers.split with ⟨middle, first, _⟩
      rcases searched_unknown unknown first searched with ⟨_, rfl⟩
      refine Or.inr ⟨link, kind, led, rfl, ?_⟩
      by_cases empty : text = ""
      · subst empty
        cases led
      · simp [named, empty]
  | nowhere searched blank =>
      rcases searched_unknown unknown answers searched with ⟨_, rfl⟩
      refine Or.inl ⟨blank, rfl, ?_⟩
      simp [named]

end Locator

namespace Verb

variable {context : Context} {conversation : Conversation σ} {path : String}

/-- Once the link of a folder has been sought, it is opened and the note with the identifier is
looked up and focused there. The folder becomes the collection as soon as it is open. -/
inductive OpensNote (id : String) (context : Context) :
    Option Link → List Exchange → Context → Prop where
  | nowhere : OpensNote id context none [] context
  | refused (link : Link) : OpensNote id context (some link) [⟨.openWindow link, none⟩] context
  | missing (link : Link) (window : Window) :
      OpensNote id context (some link)
        [⟨.openWindow link, some window⟩, ⟨.noteForId window id, none⟩]
        { context with collection := some window }
  | focused (link : Link) (window : Window) (note : NoteRef) (answer : Bool) :
      OpensNote id context (some link)
        [⟨.openWindow link, some window⟩, ⟨.noteForId window id, some note⟩,
          ⟨.focus window { origin := .command, note }, answer⟩]
        { context with collection := some window }

theorem OpensNote.of_none {id : String} {left : Context} {tail : List Exchange}
    (opens : OpensNote id context none tail left) : tail = [] ∧ left = context := by
  cases opens
  exact ⟨rfl, rfl⟩

/-- The folder was sought, and the note was opened in it as far as it was found. -/
def OpensFolderNote (folder id : String) (context : Context) (said : List Exchange)
    (left : Context) : Prop :=
  ∃ sought found tail, said = sought ++ tail ∧
    Locator.Located { path := some folder } sought found ∧ OpensNote id context found tail left

/-- Opens a folder and focuses the note with an identifier in it. -/
def openFolderNote (host : Host σ) (folder id path : String) : Handling σ Unit := do
  let window ← Handling.establish host { path := some folder }
  let found ← Handling.ask host (.noteForId window id)
  Handling.focusFound host window found (noNoteWithId path)

theorem openFolderNote_follows (host : Host σ) (folder id path : String) (context : Context) :
    Handling.Follows host (fun _ _ => True)
      (fun said _ left => OpensFolderNote folder id context said left)
      (fun said _ left => OpensFolderNote folder id context said left) [] context
      (openFolderNote host folder id path) := by
  apply Handling.Follows.establish_bind_of_link (Locator.link_follows _) (fun _ _ => trivial)
  · intro said description located
    exact ⟨said, none, [], by simp, located, .nowhere⟩
  · intro said link description located
    exact ⟨said, some link, _, rfl, located, .refused link⟩
  · intro said link window located
    apply Handling.Follows.ask_bind trivial
    intro found
    apply Handling.Follows.focusFound (fun _ => trivial)
    · rintro rfl
      exact ⟨said, some link, _, by simp, located, .missing link window⟩
    · rintro note answer rfl
      exact ⟨said, some link, _, by simp, located, .focused link window note answer⟩

/-- Where the host does not know the folder, the note is opened in the folder that the path of the
folder names, and nothing is opened if it names none. -/
theorem OpensFolderNote.of_unknown {folder id : String} {left : Context} {said : List Exchange}
    {state final : σ} (unknown : (host.answer state (.pathLink folder)).1 = none)
    (answers : host.Answers state said final)
    (opens : OpensFolderNote folder id context said left) :
    Link.ofText? folder = none ∧ left = context ∧
        (∀ exchange ∈ said, exchange.request = .pathLink folder) ∨
      ∃ link kind tail, Link.ofText? folder = some link ∧
        said = [⟨.pathLink folder, none⟩, ⟨.classify link, kind⟩] ++ tail ∧
        OpensNote id context (some { link with kind }) tail left := by
  rcases opens with ⟨sought, found, tail, rfl, located, opens⟩
  rcases answers.split with ⟨middle, first, _⟩
  rcases Locator.located_unknown unknown first located with
    ⟨refused, rfl, only⟩ | ⟨link, kind, made, rfl, rfl⟩
  · rcases opens.of_none with ⟨rfl, kept⟩
    rw [List.append_nil]
    exact Or.inl ⟨refused, kept, only⟩
  · exact Or.inr ⟨link, kind, tail, made, rfl, opens⟩

theorem openNotePath_of_missing
    (missing : (host.files conversation.state).pathExists path = false) :
    (openNotePath host path).run.run context conversation =
      ((.error (.noteNotFound ("Note file could not be located: " ++ path)), context),
        conversation) := by
  rw [openNotePath, Handling.run_files_bind, missing]
  rfl

theorem openNotePath_of_parent {folder : Path}
    (there : (host.files conversation.state).pathExists path)
    (up : (Path.ofText path).parent? = some folder) :
    (openNotePath host path).run.run context conversation =
      (openFolderNote host folder.text
        (commonForm (String.ofList ((Path.ofText path).stem?.getD []))) path).run.run context
        conversation := by
  simp only [openNotePath, Handling.run_files_bind, there, up]
  rfl

/-- The turn of a note path that leads somewhere. -/
theorem turn_notePath {standing : Standing σ} {folder : Path}
    (there : (host.files standing.conversation.state).pathExists path)
    (up : (Path.ofText path).parent? = some folder) :
    let turn := openNote.turn host standing ⟨"notepath", path⟩
    (∃ final, host.Answers standing.conversation.state turn.said final) ∧
      OpensFolderNote folder.text (commonForm (String.ofList ((Path.ofText path).stem?.getD [])))
        standing.context turn.said turn.left := by
  intro turn
  let id := commonForm (String.ofList ((Path.ofText path).stem?.getD []))
  have same : ((openNote.procedure host).parameter ⟨"notepath", path⟩).run.run standing.context
      standing.conversation = (openFolderNote host folder.text id path).run.run standing.context
        standing.conversation := openNotePath_of_parent there up
  rcases turn_cases_of_run same (openFolderNote_follows host folder.text id path _) with
    ⟨answered, _, ⟨_, opened⟩ | ⟨_, _, opened⟩⟩
  · exact ⟨answered, opened⟩
  · exact ⟨answered, opened⟩

/-- A note path that leads nowhere is reported, and that is all. One that leads to a file opens the
folder of the file, which is there under the path around it, and then the note in it that has the
name of the file. If no path is registered for the folder, the link that is opened is made of the
path of the folder; it is the folder that it leads to unless the path had the marker in front, and
there is none if nothing but white space is left of it. -/
theorem take_notePath (host : Host σ) (standing : Standing σ) (path : String)
    (rooted : (host.files standing.conversation.state).Rooted) :
    let tree := host.files standing.conversation.state
    let next := openNote.take host standing ⟨"notepath", path⟩
    let said := (openNote.turn host standing ⟨"notepath", path⟩).said
    (tree.pathExists path = false →
      next.context = standing.context ∧ ∃ failure, failure.code = "NOTE_NOT_FOUND" ∧
        next.conversation.exchanges =
          standing.conversation.exchanges ++ standing.report.alarm failure) ∧
    (tree.isFile path → ∃ folder directory name,
      (Path.ofText path).parent? = some folder ∧ tree.find path = .ok (name :: directory) ∧
      ((host.answer standing.conversation.state (.pathLink folder.text)).1 = none →
        let bare := Link.withoutMarker folder.text
        let link : Link := { url := Link.marker ++ bare, path := bare }
        let id := commonForm (String.ofList (Path.withoutExtension name))
        (Text.isBlank bare.toList →
          next.context = standing.context ∧
          ∀ exchange ∈ said, exchange.request = .pathLink folder.text) ∧
        (Text.isBlank bare.toList = false →
          (bare = folder.text → tree.find link.path = .ok directory) ∧
          ∃ kind tail,
            said = [⟨.pathLink folder.text, none⟩, ⟨.classify link, kind⟩] ++ tail ∧
            OpensNote id standing.context (some { link with kind }) tail next.context))) := by
  intro tree next said
  constructor
  · intro missing
    have reached : next = _ := take_of_error host openNote (openNotePath_of_missing missing)
    rw [reached]
    exact ⟨rfl, _, rfl, Report.fail_exchanges _ _ _ _⟩
  · intro file
    rcases FileTree.folder_of_isFile rooted file with
      ⟨folder, directory, name, up, found, named, around⟩
    refine ⟨folder, directory, name, up, found, ?_⟩
    intro unknown bare link id
    rcases turn_notePath (FileTree.pathExists_of_isFile file) up with ⟨⟨final, answers⟩, opens⟩
    have stem : commonForm (String.ofList ((Path.ofText path).stem?.getD [])) = id := by
      rw [Path.stem?_eq, named]
      rfl
    rw [stem] at opens
    have ended := opens.of_unknown unknown answers
    constructor
    · intro blank
      rw [Link.ofText?_of_blank blank] at ended
      rcases ended with ⟨_, kept, only⟩ | ⟨_, _, _, impossible, _⟩
      · exact ⟨kept, only⟩
      · cases impossible
    · intro visible
      rw [Link.ofText?_of_not_blank visible] at ended
      rcases ended with ⟨impossible, _⟩ | ⟨_, kind, tail, made, told, opened⟩
      · cases impossible
      · cases made
        refine ⟨?_, kind, tail, told, opened⟩
        intro whole
        rcases around with empty | leads
        · rw [whole, empty] at visible
          cases visible
        · change tree.find bare = _
          rw [whole]
          exact leads

/-- The folder of a file is found through slashes and dots. -/
theorem take_notePath_through_dots :
    let state : CatalogueState :=
      { catalogue := { notes := [("work", [⟨"todo", "To Do", none⟩])] }, preferences := {},
        lastSelected := none,
        tree := ((FileTree.ofWorking []).put ["work".toList] .directory).put
          ["To Do.txt".toList, "work".toList] (.file []) }
    let standing : Standing CatalogueState :=
      { context := {}, report := { alerting := false }, conversation := { state } }
    let parameter : Parameter := ⟨"notepath", "work//./To Do.txt"⟩
    state.tree.Rooted ∧ state.tree.isFile "work//./To Do.txt" ∧
      state.tree.find "work" = .ok ["work".toList] ∧
      ∃ kind tail, (openNote.turn catalogueHost standing parameter).said =
          [⟨.pathLink "work", none⟩, ⟨.classify ⟨"file://work", "work", .unknown⟩, kind⟩] ++ tail ∧
        OpensNote "todo" {} (some ⟨"file://work", "work", kind⟩) tail
          (openNote.take catalogueHost standing parameter).context := by
  intro state standing parameter
  have rooted : state.tree.Rooted := by
    apply FileTree.rooted_put _ rfl
    · simp [FileTree.nodeAt, FileTree.put, FileTree.ofWorking]
    · apply FileTree.rooted_put (FileTree.rooted_ofWorking []) rfl
      simp [FileTree.nodeAt, FileTree.ofWorking]
  have file : state.tree.isFile "work//./To Do.txt" := rfl
  rcases (take_notePath catalogueHost standing "work//./To Do.txt" rooted).2 file with
    ⟨folder, directory, name, up, found, opens⟩
  have around : (Path.ofText "work//./To Do.txt").parent? = some ⟨.plain, ["work".toList]⟩ := rfl
  have there : state.tree.find "work//./To Do.txt" = .ok ["To Do.txt".toList, "work".toList] := rfl
  cases around.symm.trans up
  cases there.symm.trans found
  have id : commonForm (String.ofList (Path.withoutExtension "To Do.txt".toList)) = "todo" := by
    decide +kernel
  rcases (opens rfl).2 rfl with ⟨leads, kind, tail, told, opened⟩
  rw [id] at opened
  exact ⟨rooted, file, leads rfl, kind, tail, told, opened⟩

/-- The folder of a bare name is not opened, although the file is there. -/
theorem not_take_notePath_bare_name :
    let state : CatalogueState :=
      { catalogue := {}, preferences := {}, lastSelected := none,
        tree := (FileTree.ofWorking []).put ["note.txt".toList] (.file []) }
    let standing : Standing CatalogueState :=
      { context := {}, report := { alerting := false }, conversation := { state } }
    state.tree.isFile "note.txt" ∧
      ¬ ∃ link answer, ⟨.openWindow link, answer⟩ ∈
        (openNote.turn catalogueHost standing ⟨"notepath", "note.txt"⟩).said := by
  intro state standing
  have silent : (openNote.turn catalogueHost standing ⟨"notepath", "note.txt"⟩).said = [] := rfl
  refine ⟨rfl, ?_⟩
  rw [silent]
  simp

end Verb

end CommandUrl

import CommandUrl.Host.Catalogue
import CommandUrl.Proofs.File.Beside
import CommandUrl.Proofs.Verb.Progress

/-!
# What `find` reveals

Every path among the parameters of `find` is revealed once, in the order of the
parameters, whatever became of those before it. For each the host is asked anew which
note was selected last, so that the paths of one command may be seen from different
folders. A path that was not revealed is reported, and so is every parameter with
another label.

The path that is revealed is told by its components. A relative path has those of the
folder of the note in front of its own, where there is such a folder.
-/

namespace CommandUrl

namespace Verb

variable {σ : Type} {host : Host σ}

/-- What a parameter of `find` says and reports, where failures raise an alarm. -/
inductive Finds (alarm : Failure → List Exchange) (parameter : Parameter) :
    List Exchange → List ReportEntry → Prop where
  | revealed (note : Option String) (path : parameter.label = "path") :
      Finds alarm parameter
        [⟨.lastSelectedPath, note⟩, ⟨.reveal (Path.beside note parameter.value), true⟩] []
  | refused (note : Option String) (path : parameter.label = "path") :
      Finds alarm parameter
        ([⟨.lastSelectedPath, note⟩, ⟨.reveal (Path.beside note parameter.value), false⟩] ++
          alarm (.fileRevealFailed parameter.value))
        [.failure (.fileRevealFailed parameter.value)]
  | unrecognized (other : parameter.label ≠ "path") :
      Finds alarm parameter (alarm (.unrecognizedParameter find.name parameter.label))
        [.failure (.unrecognizedParameter find.name parameter.label)]

/-- What parameters of `find` say and report, one after the other. -/
inductive FindsAll (alarm : Failure → List Exchange) :
    List Parameter → List Exchange → List ReportEntry → Prop where
  | nil : FindsAll alarm [] [] []
  | cons {parameter : Parameter} {parameters : List Parameter} {said more : List Exchange}
      {reported further : List ReportEntry} (first : Finds alarm parameter said reported)
      (rest : FindsAll alarm parameters more further) :
      FindsAll alarm (parameter :: parameters) (said ++ more) (reported ++ further)

theorem findParameter_follows (alarm : Failure → List Exchange) (parameter : Parameter)
    (context : Context) :
    Handling.Follows host (fun _ _ => True)
      (fun said failure _ => Finds alarm parameter (said ++ alarm failure) [.failure failure])
      (fun said _ _ => Finds alarm parameter said []) [] context (findParameter host parameter) := by
  simp only [findParameter]
  split
  · next path =>
      apply Handling.Follows.ask_bind trivial
      intro note
      apply Handling.Follows.ask_bind trivial
      intro revealed
      cases revealed with
      | false => exact .throw (.refused note path)
      | true => exact .pure (.revealed note path)
  · next other => exact .throw (.unrecognized other)

theorem take_finds (standing : Standing σ) (parameter : Parameter) :
    let next := find.take host standing parameter
    ∃ said reported, Finds standing.report.alarm parameter said reported ∧
      Conversation.GoesOn host (fun _ => True) standing.conversation next.conversation said ∧
      next.report.entries = standing.report.entries ++ reported ∧
      next.report.alarm = standing.report.alarm := by
  intro next
  have follows : Handling.Follows host _ _ _ [] standing.context (findParameter host parameter) :=
    findParameter_follows standing.report.alarm parameter standing.context
  rcases taken : (findParameter host parameter).run.run standing.context standing.conversation with
    ⟨⟨failure | _, context⟩, conversation⟩
  · rcases follows.said_of_error taken with ⟨said, talk, finds⟩
    have reached : next = _ := take_of_error host find taken
    have alerted := (Conversation.GoesOn.ofSaid talk).trans
      (.fail (fun _ => trivial) failure standing.report conversation)
    rw [reached]
    exact ⟨_, _, finds, alerted, rfl, rfl⟩
  · rcases follows.said_of_ok taken with ⟨said, talk, finds⟩
    have reached : next = _ := take_of_ok host find taken
    rw [reached]
    exact ⟨said, [], finds, .ofSaid talk, (List.append_nil _).symm, rfl⟩

theorem takes_find (standing : Standing σ) (parameters : List Parameter) :
    let last := parameters.foldl (find.take host) standing
    ∃ said reported, FindsAll standing.report.alarm parameters said reported ∧
      Conversation.GoesOn host (fun _ => True) standing.conversation last.conversation said ∧
      last.report.entries = standing.report.entries ++ reported := by
  intro last
  induction parameters generalizing standing with
  | nil => exact ⟨[], [], .nil, .refl _, (List.append_nil _).symm⟩
  | cons parameter parameters ih =>
      rcases take_finds standing parameter with ⟨said, reported, first, goesOn, added, alarm⟩
      rcases ih (find.take host standing parameter) with ⟨more, further, rest, onwards, grown⟩
      rw [alarm] at rest
      refine ⟨said ++ more, reported ++ further, .cons first rest, goesOn.trans onwards, ?_⟩
      refine grown.trans ?_
      rw [added, List.append_assoc]

/-- Each path is revealed once and in order, and what was not revealed is reported. The path that is
revealed is the given one, if it is absolute or there is nothing around the note that was selected
last; otherwise it is the given one continued from around that note. Nothing is around no note, the
empty path and the root. -/
theorem carryOut_find_reveals (host : Host σ) (parameters : List Parameter) (report : Report)
    (conversation : Conversation σ) :
    let run := find.carryOut host parameters report conversation
    (∃ said reported, run.2.exchanges = conversation.exchanges ++ said ∧
      host.Answers conversation.state said run.2.state ∧
      run.1.2.entries = report.entries ++ reported ∧
      FindsAll report.alarm parameters said reported) ∧
    (∀ note path, (Path.ofText path).isAbsolute ∨
        (∀ given, note = some given → given = "" ∨ (Path.ofText given).parent? = none) →
      Path.components (Path.beside note path) = Path.components path) ∧
    (∀ given path, (Path.ofText path).isAbsolute = false →
        (Path.ofText given).parent? ≠ none →
      Path.components (Path.beside (some given) path) = ((Path.ofText given).isAbsolute,
        (Path.ofText given).names.dropLast ++ (Path.ofText path).names)) ∧
    (∀ given, (Path.ofText given).parent? = none ↔
      given = "" ∨ Path.components given = (true, [])) := by
  intro run
  refine ⟨?_, ?_, ?_, ?_⟩
  · let begun : Standing σ :=
      { context := {}, report := { report with verb := find.name }, conversation }
    have stands : find.standing host parameters report conversation =
        some (parameters.foldl (find.take host) begun) := rfl
    rcases takes_find begun parameters with ⟨said, reported, finds, goesOn, added⟩
    have ended : run = _ := carryOut_of_standing stands
    rw [ended]
    exact ⟨said, reported, goesOn.exchanges, goesOn.answered, added, finds⟩
  · rintro note path (absolute | alone)
    · rw [Path.beside_of_absolute absolute]
    · rw [Path.beside_of_none alone]
  · intro given path relative inner
    rcases Option.ne_none_iff_exists'.mp inner with ⟨folder, up⟩
    exact Path.components_beside relative up
  · intro given
    rw [Path.ofText, Path.parent?_eq_none_iff]
    simp [Path.components, Path.ofText]

/-- A path that leads outwards, beside a note whose path has slashes and dots to spare. -/
theorem carryOut_find_reveals_outwards :
    (Path.ofText "../a.pdf").isAbsolute = false ∧
      (Path.ofText "/notes//./todo.txt/").parent? ≠ none ∧
      Path.components (Path.beside (some "/notes//./todo.txt/") "../a.pdf") =
        (true, ["notes".toList, "..".toList, "a.pdf".toList]) := by
  let conversation : Conversation CatalogueState :=
    { state := { catalogue := {}, preferences := {}, lastSelected := none, tree := .ofWorking [] } }
  rcases carryOut_find_reveals catalogueHost [] { alerting := false } conversation with
    ⟨_, _, inner, _⟩
  have relative : (Path.ofText "../a.pdf").isAbsolute = false := rfl
  have around : (Path.ofText "/notes//./todo.txt/").parent? ≠ none := by decide
  exact ⟨relative, around, inner _ _ relative around⟩

end Verb

end CommandUrl

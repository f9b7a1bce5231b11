import CommandUrl.Proofs.File.Storing
import CommandUrl.Proofs.SettingsFile
import CommandUrl.Proofs.SettingsFile.Amendment

/-!
# Changes of the settings file

A change that succeeds does to the members that it names what it says, and nothing to
the others. What it leaves in the file depends on nothing but the settings that come of
it, so a change may be made again, or exchanged with a change of other members, without
a difference. A change that fails costs nothing: no file is touched before the settings
that come of it are known.
-/

namespace CommandUrl.SettingsFile

open Json

variable {tree other : FileTree} {path : String} {change : Json} {changes : List Member}
  {found settings next : Settings} {events : List Event}

section Steps

theorem amend_eq_ok_iff :
    amend found change = .ok settings ↔ Settings.ofJson (found.toJson.merge change) = .ok settings := by
  unfold amend
  cases Settings.ofJson (found.toJson.merge change) with
  | error mismatch => simp
  | ok result => simp

/-- A change makes settings exactly where they have the values that the change gives. -/
theorem amend_object_iff :
    amend found (.object changes) = .ok settings ↔
      (Json.object changes).member? none = none ∧
        ∀ name ∈ Settings.memberNames, settings.toJson.member? name =
          ((Json.object changes).member? name).or (found.toJson.member? name) := by
  rw [amend_eq_ok_iff]
  exact Settings.ofJson_merge_eq_ok_iff found

theorem save_eq_ok_iff :
    save tree path settings = (.ok (), other) ↔
      tree.store path (Utf8.encode (encode settings)) = (.ok (), other) := by
  unfold save
  rcases tree.store path (Utf8.encode (encode settings)) with ⟨cause | _, after⟩
  · simp
  · simp

theorem save_again (saved : save tree path settings = (.ok (), other)) (next : Settings) :
    ∃ last, save tree path next = (.ok (), last) ∧ save other path next = (.ok (), last) := by
  simp only [save_eq_ok_iff] at saved ⊢
  exact FileTree.store_again saved _

theorem update_of_save (loaded : load tree path = (.ok found, events))
    (amended : amend found change = .ok settings)
    (saved : save tree path settings = (.ok (), other)) :
    update tree path change = ⟨.ok settings, other, events⟩ := by
  unfold update
  simp only [loaded, Except.bind, amended, saved]
  rfl

/-- The three steps of a change that succeeded. -/
theorem update_cases (updated : (update tree path change).result = .ok settings) :
    ∃ found, (load tree path).1 = .ok found ∧ amend found change = .ok settings ∧
      save tree path settings = (.ok (), (update tree path change).tree) := by
  unfold update at updated ⊢
  dsimp only at updated ⊢
  cases loaded : (load tree path).1 with
  | error failure =>
      simp only [loaded, Except.bind] at updated
      cases updated
  | ok found =>
      simp only [loaded, Except.bind] at updated ⊢
      cases amended : amend found change with
      | error failure =>
          simp only [amended] at updated
          cases updated
      | ok result =>
          simp only [amended] at updated ⊢
          rcases saved : save tree path result with ⟨failure | _, after⟩
          · simp only [saved] at updated
            cases updated
          · simp only [saved] at updated ⊢
            cases updated
            exact ⟨found, rfl, amended, saved⟩

/-- Where a change can fail: before anything is saved, or in saving. -/
theorem tree_of_update_error {failure : Failure}
    (failed : (update tree path change).result = .error failure) :
    (update tree path change).tree = tree ∨
      ∃ settings cause, save tree path settings = (.error cause, (update tree path change).tree) := by
  unfold update at failed ⊢
  dsimp only at failed ⊢
  split at failed
  · exact Or.inl rfl
  · next settings amended =>
      dsimp only
      rcases saved : save tree path settings with ⟨cause | _, after⟩
      · exact Or.inr ⟨settings, cause, saved⟩
      · simp only [saved] at failed
        cases failed

theorem gains_of_save {cause : Failure} (saved : save tree path settings = (.error cause, other)) :
    ∃ paths : List Path, (∀ outer ∈ paths, (Path.ofText path).Within outer) ∧
      FileTree.Gains paths tree other := by
  unfold save at saved
  split at saved
  · cases saved
  · next failed =>
      cases saved
      exact FileTree.gains_of_store failed

theorem update_after_save (saved : save tree path settings = (.ok (), other))
    (amended : amend settings change = .ok next) :
    ∃ last, save tree path next = (.ok (), last) ∧
      update other path change = ⟨.ok next, last, []⟩ := by
  rcases save_again saved next with ⟨last, once, twice⟩
  have done : (save tree path settings).1 = .ok () := by rw [saved]
  have loaded := load_of_save done
  rw [saved] at loaded
  exact ⟨last, once, update_of_save loaded amended twice⟩

end Steps

section Laws

/-- The changes of members that settings have. -/
def known (changes : List Member) : List Member :=
  changes.filter fun member => (Settings.memberNames.map some).contains member.1

/-- No member of settings is named by both changes. -/
def Disjoint (changes others : List Member) : Prop :=
  ∀ name ∈ Settings.memberNames,
    (Json.object changes).member? name = none ∨ (Json.object others).member? name = none

variable {others : List Member} {left right : Settings}

theorem member?_known {name : String} (mem : name ∈ Settings.memberNames) (changes : List Member) :
    (Json.object (known changes)).member? name = (Json.object changes).member? name := by
  unfold known
  rw [member?, ← List.filter_reverse]
  apply lookup_filter
  exact List.mem_map_of_mem mem

theorem member?_known_none (changes : List Member) :
    (Json.object (known changes)).member? none = none := by
  rw [member?, List.lookup_eq_none_iff]
  intro member mem
  simp only [known, List.mem_reverse, List.mem_filter, List.contains_iff_mem] at mem
  rcases List.mem_map.mp mem.2 with ⟨name, _, named⟩
  simp [← named]

theorem amend_known (amended : amend found (.object changes) = .ok settings) :
    amend found (.object (known changes)) = .ok settings := by
  rw [amend_object_iff] at amended ⊢
  refine ⟨member?_known_none changes, ?_⟩
  intro name mem
  rw [member?_known mem]
  exact amended.2 name mem

theorem amend_again (amended : amend found (.object changes) = .ok settings) :
    amend settings (.object changes) = .ok settings := by
  rw [amend_object_iff] at amended ⊢
  refine ⟨amended.1, ?_⟩
  intro name mem
  rw [amended.2 name mem, ← Option.or_assoc, Option.or_self]

/-- Changes of different members have settings that come of both, whichever is made first. -/
theorem amend_exchange (disjoint : Disjoint changes others)
    (first : amend found (.object changes) = .ok left)
    (second : amend found (.object others) = .ok right) :
    ∃ both, amend left (.object others) = .ok both ∧ amend right (.object changes) = .ok both := by
  rw [amend_object_iff] at first second
  have each : ∀ name ∈ Settings.memberNames, ∃ source : Settings, source.toJson.member? name =
      ((Json.object others).member? name).or (left.toJson.member? name) := by
    intro name mem
    cases named : (Json.object others).member? name with
    | none => exact ⟨left, by simp⟩
    | some value =>
        refine ⟨right, ?_⟩
        rw [second.2 name mem, named]
        simp
  rcases Settings.exists_of_values each with ⟨both, values⟩
  refine ⟨both, ?_, ?_⟩
  · rw [amend_object_iff]
    exact ⟨second.1, values⟩
  · rw [amend_object_iff]
    refine ⟨first.1, ?_⟩
    intro name mem
    rw [values name mem, first.2 name mem, second.2 name mem]
    rcases disjoint name mem with unnamed | unnamed
    · simp [unnamed]
    · simp [unnamed]

end Laws

/-- What a change that succeeded has done. The members that it names have the values it gives them,
the others have the values that were in force, and members that settings do not have make no
difference. The same change made again changes nothing, and a change of other members may be made
before it or after it. -/
theorem update_laws (updated : (update tree path (.object changes)).result = .ok settings) :
    let after := (update tree path (.object changes)).tree
    (∃ found, (load tree path).1 = .ok found ∧
      ∀ name ∈ Settings.memberNames, settings.toJson.member? name =
        ((Json.object changes).member? name).or (found.toJson.member? name)) ∧
    update tree path (.object (known changes)) = update tree path (.object changes) ∧
    update after path (.object changes) = ⟨.ok settings, after, []⟩ ∧
    ∀ others second, (update tree path (.object others)).result = .ok second →
      Disjoint changes others →
      ∃ both last, update after path (.object others) = ⟨.ok both, last, []⟩ ∧
        update (update tree path (.object others)).tree path (.object changes) =
          ⟨.ok both, last, []⟩ := by
  intro after
  rcases update_cases updated with ⟨found, loaded, amended, saved⟩
  have whole : load tree path = (.ok found, (load tree path).2) := Prod.ext loaded rfl
  refine ⟨⟨found, loaded, (amend_object_iff.mp amended).2⟩, ?_, ?_, ?_⟩
  · rw [update_of_save whole amended saved, update_of_save whole (amend_known amended) saved]
  · rcases update_after_save saved (amend_again amended) with ⟨last, once, again⟩
    rw [saved] at once
    cases once
    exact again
  · intro others second updatedOther disjoint
    rcases update_cases updatedOther with ⟨same, loadedOther, amendedOther, savedOther⟩
    rw [loaded] at loadedOther
    cases loadedOther
    rcases amend_exchange disjoint amended amendedOther with ⟨both, later, earlier⟩
    rcases update_after_save saved later with ⟨last, stored, result⟩
    rcases update_after_save savedOther earlier with ⟨lastOther, storedOther, resultOther⟩
    rw [stored] at storedOther
    cases storedOther
    exact ⟨both, last, result, resultOther⟩

/-- A change that also names something else, and one of another member. -/
theorem update_laws_theme :
    let tree := FileTree.ofWorking []
    let changes : List Member :=
      [(some "logLevel", .text "debug"), (some "theme", .record [("dark", .bool true)])]
    let others : List Member := [(some "essentialFolder", .text "/n"), (some "generalFolder", .null)]
    let after := (update tree "s" (.object changes)).tree
    (update tree "s" (.object changes)).result = .ok { logLevel := "debug" } ∧
      update after "s" (.object changes) = ⟨.ok { logLevel := "debug" }, after, []⟩ ∧
      ∃ both last, update after "s" (.object others) = ⟨.ok both, last, []⟩ ∧
        update (update tree "s" (.object others)).tree "s" (.object changes) =
          ⟨.ok both, last, []⟩ := by
  intro tree changes others after
  have updated : (update tree "s" (.object changes)).result = .ok { logLevel := "debug" } := rfl
  have updatedOther : (update tree "s" (.object others)).result =
      .ok { essentialFolder := some "/n" } := rfl
  have disjoint : Disjoint changes others := by
    intro name mem
    simp only [Settings.memberNames, List.mem_cons, List.not_mem_nil, or_false] at mem
    rcases mem with rfl | rfl | rfl | rfl | rfl
    · exact Or.inl rfl
    · exact Or.inl rfl
    · exact Or.inl rfl
    · exact Or.inl rfl
    · exact Or.inr rfl
  rcases update_laws updated with ⟨_, _, again, exchange⟩
  exact ⟨updated, again, exchange others _ updatedOther disjoint⟩

/-- What a change that failed has cost: some of the directories around the file may be new, and
that is all. -/
theorem update_error_keeps_files {failure : Failure}
    (failed : (update tree path change).result = .error failure) :
    let after := (update tree path change).tree
    after.working = tree.working ∧
    (∀ location bytes, after.nodeAt location = some (.file bytes) ↔
      tree.nodeAt location = some (.file bytes)) ∧
    ∀ location, after.nodeAt location ≠ tree.nodeAt location →
      tree.nodeAt location = none ∧ after.nodeAt location = some .directory ∧
        ∃ outer, (Path.ofText path).Within outer ∧ after.find outer.text = .ok location := by
  intro after
  have gains : ∃ paths : List Path, (∀ outer ∈ paths, (Path.ofText path).Within outer) ∧
      FileTree.Gains paths tree after := by
    rcases tree_of_update_error failed with same | ⟨settings, cause, saved⟩
    · exact ⟨[], nofun, same ▸ .refl _ _⟩
    · exact gains_of_save saved
  rcases gains with ⟨paths, around, gains⟩
  refine ⟨gains.working, gains.file_iff, ?_⟩
  intro location differs
  rcases gains.nodes location with same | ⟨nothing, made, outer, mem, found⟩
  · exact absurd same differs
  · exact ⟨nothing, made, outer, around outer mem, found⟩

/-- A path that ends with dots, so that the directory before them is made and the file is not. -/
theorem update_error_keeps_files_dots :
    let tree := FileTree.ofWorking []
    let after := (update tree "/d/.." (.object [])).tree
    (update tree "/d/.." (.object [])).result = .error (.io "Is a directory (os error 21)") ∧
      after.nodeAt ["d".toList] = some .directory ∧
      tree.nodeAt ["d".toList] = none ∧
      ∃ outer, (Path.ofText "/d/..").Within outer ∧ after.find outer.text = .ok ["d".toList] := by
  intro tree after
  have failed : (update tree "/d/.." (.object [])).result =
      .error (.io "Is a directory (os error 21)") := rfl
  have made : after.nodeAt ["d".toList] = some .directory := rfl
  rcases update_error_keeps_files failed with ⟨_, _, rest⟩
  rcases rest ["d".toList] (by decide) with ⟨nothing, _, outer⟩
  exact ⟨failed, made, nothing, outer⟩

end CommandUrl.SettingsFile

import CommandUrl.Proofs.File.Writing
import CommandUrl.Proofs.Json.Pretty
import CommandUrl.SettingsFile

/-!
# Settings are kept

Settings that have been stored are the settings that are in force from then on,
whatever is in their texts: the value that they are written as is read as them,
the text of that value is read as the value, and the file holds the text. The
same goes for settings that come of a change, since they are stored in the same
way.
-/

namespace CommandUrl

theorem Settings.ofJson_toJson (settings : Settings) : ofJson settings.toJson = .ok settings := by
  rcases settings with ⟨urlScheme, essentialFolder, generalFolder, alertOnError, logLevel⟩
  cases essentialFolder <;> cases generalFolder <;> rfl

namespace SettingsFile

/-- There are no numbers in settings. -/
theorem faithful_toJson (settings : Settings) : settings.toJson.Faithful := by
  rcases settings with ⟨urlScheme, essentialFolder, generalFolder, alertOnError, logLevel⟩
  cases essentialFolder <;> cases generalFolder <;>
    exact ⟨trivial, trivial, trivial, trivial, trivial, trivial⟩

theorem decode?_encode (settings : Settings) : decode? (encode settings) = some settings := by
  rw [decode?, encode, Json.parse?_pretty (faithful_toJson settings), Option.bind_some,
    Settings.ofJson_toJson]
  rfl

theorem load_of_readText {tree : FileTree} {path : String} {settings : Settings}
    (text : tree.readText path = .ok (encode settings)) :
    load tree path = (.ok settings, []) := by
  unfold load read
  rw [text]
  simp only [decode?_encode]
  rfl

variable {tree : FileTree} {path : String}

theorem load_of_save {settings : Settings} (saved : (save tree path settings).1 = .ok ()) :
    load (save tree path settings).2 path = (.ok settings, []) := by
  unfold save at saved ⊢
  rcases stored : tree.store path (Utf8.encode (encode settings)) with ⟨error | _, after⟩
  · rw [stored] at saved
    cases saved
  · exact load_of_readText (FileTree.readText_of_store stored)

theorem load_of_update {change : Json} {settings : Settings}
    (updated : (update tree path change).result = .ok settings) :
    load (update tree path change).tree path = (.ok settings, []) := by
  unfold update at updated ⊢
  dsimp only at updated ⊢
  cases amended : (load tree path).1.bind (amend · change) with
  | error failure =>
      rw [amended] at updated
      cases updated
  | ok result =>
      rw [amended] at updated
      dsimp only at updated ⊢
      -- what is given back is what was stored
      cases saved : (save tree path result).1 with
      | error failure =>
          rw [saved] at updated
          cases updated
      | ok value =>
          rw [saved] at updated
          cases updated
          exact load_of_save saved

/-- Settings that were stored under a path, as they are or after a change, are in force by the file
at that path, and nothing is found wrong with it. -/
theorem load_after_storing (tree : FileTree) (path : String) :
    (∀ settings, (save tree path settings).1 = .ok () →
      load (save tree path settings).2 path = (.ok settings, [])) ∧
    ∀ change settings, (update tree path change).result = .ok settings →
      load (update tree path change).tree path = (.ok settings, []) :=
  ⟨fun _ saved => load_of_save saved, fun _ _ updated => load_of_update updated⟩

/-- A new folder, and texts with quotes, backslashes and controls. -/
theorem load_after_storing_quotes :
    let tree := FileTree.ofWorking []
    let settings : Settings := { urlScheme := "a\"b\n\x01", generalFolder := some "C:\\\u00E9" }
    let change : Json := .record [("logLevel", .text "\"")]
    (save tree "/etc/s" settings).1 = .ok () ∧
      load (save tree "/etc/s" settings).2 "/etc/s" = (.ok settings, []) ∧
      (update tree "/etc/s" change).result = .ok { logLevel := "\"" } ∧
      load (update tree "/etc/s" change).tree "/etc/s" = (.ok { logLevel := "\"" }, []) := by
  intro tree settings change
  have saved : (save tree "/etc/s" settings).1 = .ok () := rfl
  have updated : (update tree "/etc/s" change).result = .ok { logLevel := "\"" } := rfl
  rcases load_after_storing tree "/etc/s" with ⟨afterSaving, afterUpdating⟩
  exact ⟨saved, afterSaving settings saved, updated, afterUpdating change _ updated⟩

end SettingsFile

end CommandUrl

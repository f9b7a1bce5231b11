import CommandUrl.Proofs.File.Rewriting
import CommandUrl.Proofs.SettingsFile.Change

/-!
# Settings that cannot be read

A file that holds a text always gives settings: the ones the text stands for, or the
defaults with a warning. A change then makes settings as long as what it gives to each
member is something that the member can hold, and it is written over the file. Bytes
that are no text are another matter. They are taken for a failure to read the file, so
neither the defaults nor a change gets past them.
-/

namespace CommandUrl.SettingsFile

open Json

variable {tree other : FileTree} {path : String} {bytes : List UInt8} {text : List Char}
  {changes : List Member}

/-- All names are texts, and what is given to a member of settings is what some settings have
there. -/
def WellTyped (changes : List Member) : Prop :=
  (Json.object changes).member? none = none ∧
    ∀ name ∈ Settings.memberNames, ∀ value, (Json.object changes).member? name = some value →
      ∃ holder : Settings, holder.toJson.member? name = some value

/-- Whether a change makes settings has nothing to do with the settings it is made of. -/
theorem wellTyped_iff (found : Settings) :
    WellTyped changes ↔ ∃ settings, amend found (.object changes) = .ok settings := by
  constructor
  · rintro ⟨texts, typed⟩
    have each : ∀ name ∈ Settings.memberNames, ∃ source : Settings, source.toJson.member? name =
        ((Json.object changes).member? name).or (found.toJson.member? name) := by
      intro name mem
      cases named : (Json.object changes).member? name with
      | none => exact ⟨found, by simp⟩
      | some value =>
          rcases typed name mem value named with ⟨holder, held⟩
          exact ⟨holder, by simp [held]⟩
    rcases Settings.exists_of_values each with ⟨settings, values⟩
    exact ⟨settings, amend_object_iff.mpr ⟨texts, values⟩⟩
  · rintro ⟨settings, amended⟩
    rcases amend_object_iff.mp amended with ⟨texts, values⟩
    refine ⟨texts, ?_⟩
    intro name mem value named
    refine ⟨settings, ?_⟩
    simp [values name mem, named]

section Reading

variable (readable : tree.readBytes path = .ok bytes)

include readable

theorem load_of_decode? {settings : Settings} (decoded : Utf8.decode? bytes = some text)
    (stored : decode? text = some settings) : load tree path = (.ok settings, []) := by
  unfold load read
  simp only [FileTree.readText_of_readBytes readable decoded, stored]
  rfl

theorem load_of_malformed (decoded : Utf8.decode? bytes = some text)
    (malformed : decode? text = none) :
    load tree path = (.ok .default, [.settingsUnreadable path]) := by
  unfold load read
  simp only [FileTree.readText_of_readBytes readable decoded, malformed]
  rfl

theorem load_of_invalidText (undecoded : Utf8.decode? bytes = none) :
    load tree path = (.error (.io FileError.invalidText.message), []) := by
  have failed : tree.readText path = .error .invalidText := by
    unfold FileTree.readText
    simp only [readable, undecoded, bind, Except.bind]
    rfl
  unfold load read
  simp only [failed]

theorem save_of_readBytes (rooted : tree.Rooted) (settings : Settings) :
    ∃ other, save tree path settings = (.ok (), other) := by
  simp only [save_eq_ok_iff]
  exact FileTree.store_of_readBytes rooted readable _

end Reading

/-- Changes of settings keep everything in a directory, whether they succeed or not. -/
theorem rooted_update (rooted : tree.Rooted) (path : String) (change : Json) :
    (update tree path change).tree.Rooted := by
  have saved : ∀ settings, (save tree path settings).2.Rooted := by
    intro settings
    have kept := FileTree.rooted_store rooted path (Utf8.encode (encode settings))
    unfold save
    rcases stored : tree.store path (Utf8.encode (encode settings)) with ⟨cause | _, after⟩
    · simpa only [stored] using kept
    · simpa only [stored] using kept
  unfold update
  dsimp only
  split
  · exact rooted
  · exact saved _

/-- What a file that can be read gives. If it holds a text then there are settings, with a warning
if they are not those of the text, and every change that is well typed puts it right. If it holds
no text then neither loading nor changing gets anywhere. -/
theorem load_of_readable (rooted : tree.Rooted) (readable : tree.readBytes path = .ok bytes) :
    (∀ text, Utf8.decode? bytes = some text →
      (∀ settings, decode? text = some settings → load tree path = (.ok settings, [])) ∧
      (decode? text = none → load tree path = (.ok .default, [.settingsUnreadable path])) ∧
      ∀ changes, WellTyped changes → ∃ settings,
        (update tree path (.object changes)).result = .ok settings ∧
        load (update tree path (.object changes)).tree path = (.ok settings, [])) ∧
    (Utf8.decode? bytes = none →
      load tree path = (.error (.io FileError.invalidText.message), []) ∧
      ∀ change, update tree path change =
        ⟨.error (.io FileError.invalidText.message), tree, []⟩) := by
  constructor
  · intro text decoded
    refine ⟨fun settings stored => load_of_decode? readable decoded stored,
      fun malformed => load_of_malformed readable decoded malformed, ?_⟩
    intro changes typed
    have loaded : ∃ found events, load tree path = (.ok found, events) := by
      cases stored : decode? text with
      | some settings => exact ⟨_, _, load_of_decode? readable decoded stored⟩
      | none => exact ⟨_, _, load_of_malformed readable decoded stored⟩
    rcases loaded with ⟨found, events, loaded⟩
    rcases (wellTyped_iff found).mp typed with ⟨settings, amended⟩
    rcases save_of_readBytes readable rooted settings with ⟨other, saved⟩
    have updated : (update tree path (.object changes)).result = .ok settings := by
      rw [update_of_save loaded amended saved]
    exact ⟨settings, updated, load_of_update updated⟩
  · intro undecoded
    have failed := load_of_invalidText readable undecoded
    refine ⟨failed, ?_⟩
    intro change
    unfold update
    simp only [failed]
    rfl

/-- A file with an opening brace and nothing else. -/
theorem load_of_readable_brace :
    let tree := (FileTree.ofWorking []).put ["s.json".toList] (.file [0x7B])
    let changes : List Member := [(some "logLevel", .text "debug"), (some "generalFolder", .null)]
    tree.Rooted ∧ tree.readBytes "s.json" = .ok [0x7B] ∧
      load tree "s.json" = (.ok .default, [.settingsUnreadable "s.json"]) ∧
      ∃ settings, (update tree "s.json" (.object changes)).result = .ok settings ∧
        load (update tree "s.json" (.object changes)).tree "s.json" = (.ok settings, []) := by
  intro tree changes
  have rooted : tree.Rooted := by
    apply FileTree.rooted_put (FileTree.rooted_ofWorking []) rfl
    decide
  have readable : tree.readBytes "s.json" = .ok [0x7B] := rfl
  have decoded : Utf8.decode? [0x7B] = some "\x7b".toList := rfl
  have malformed : decode? "\x7b".toList = none := rfl
  have typed : WellTyped changes := by
    rw [wellTyped_iff .default]
    exact ⟨{ logLevel := "debug" }, rfl⟩
  rcases (load_of_readable rooted readable).1 _ decoded with ⟨_, fallsBack, repairs⟩
  exact ⟨rooted, readable, fallsBack malformed, repairs changes typed⟩

/-- One byte that begins no character is enough to have no settings at all. -/
theorem not_load_of_invalid_byte :
    ¬ ∀ (tree : FileTree) (path : String) (bytes : List UInt8), tree.Rooted →
      tree.readBytes path = .ok bytes → ∃ settings, (load tree path).1 = .ok settings := by
  intro loads
  let tree := (FileTree.ofWorking []).put ["s.json".toList] (.file [0xFF])
  have rooted : tree.Rooted := by
    apply FileTree.rooted_put (FileTree.rooted_ofWorking []) rfl
    decide
  rcases loads tree "s.json" [0xFF] rooted rfl with ⟨settings, loaded⟩
  cases loaded

end CommandUrl.SettingsFile

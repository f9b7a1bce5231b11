import CommandUrl.Proofs.File.Writing
import CommandUrl.Proofs.Json.Merge
import CommandUrl.Proofs.Records
import CommandUrl.SettingsFile

/-!
# Settings after a change

A change is merged into the JSON form of the settings, and the result is read as settings
again. What is read depends on the values under the names of the settings only: the change
makes settings when each of these values is one that some settings have, and these are the
settings with the values that the change gives and the old values elsewhere.
-/

namespace CommandUrl

open Json

namespace Json

section Values

variable {value : Json}

theorem eq_text_of_toText {content : String} (read : toText value = .ok content) :
    value = text content := by
  unfold toText at read
  split at read <;> cases read
  rfl

theorem eq_optionalText_of_toOptionalText {content : Option String}
    (read : toOptionalText value = .ok content) : value = optionalText content := by
  unfold toOptionalText at read
  split at read
  · cases read
    rfl
  · cases text : toText value with
    | error mismatch => simp [text, Except.map] at read
    | ok other =>
        simp only [text, Except.map, Except.ok.injEq] at read
        subst read
        exact eq_text_of_toText text

theorem eq_bool_of_toBool {switch : Bool} (read : toBool value = .ok switch) :
    value = .bool switch := by
  unfold toBool at read
  split at read <;> cases read
  rfl

theorem optionalText_ne_object (content : Option String) (members : List Member) :
    optionalText content ≠ .object members := by
  cases content <;> nofun

end Values

section Members

variable {members : List Member}

theorem record_of_memberNames {names : List String} (named : memberNames members = .ok names) :
    ∃ own : List (String × Json), members = own.map (fun (name, value) => (some name, value)) ∧
      names = own.map Prod.fst := by
  induction members generalizing names with
  | nil =>
      cases named
      exact ⟨[], rfl, rfl⟩
  | cons member members ih =>
      rcases member with ⟨_ | first, value⟩
      · cases named
      · unfold memberNames at named ih
        rw [List.mapM_cons] at named
        rcases ok_of_bind named with ⟨name, read, named⟩
        rcases ok_of_bind named with ⟨rest, readRest, named⟩
        cases read
        cases named
        rcases ih readRest with ⟨own, rfl, rfl⟩
        exact ⟨(first, value) :: own, rfl, rfl⟩

theorem member?_record (name : String) (own : List (String × Json)) :
    (record own).member? name = own.reverse.lookup name := by
  rw [record, member?, ← List.map_reverse]
  induction own.reverse with
  | nil => rfl
  | cons member members ih =>
      rcases member with ⟨first, value⟩
      simp only [List.map_cons, lookup_cons_eq, Option.some.injEq, ih]

theorem member?_record_none (own : List (String × Json)) : (record own).member? none = none := by
  rw [record, member?, List.lookup_eq_none_iff]
  intro member mem
  simp only [List.mem_reverse, List.mem_map] at mem
  rcases mem with ⟨_, _, rfl⟩
  rfl

theorem lookup_filter {α β : Type} [BEq α] [LawfulBEq α] [DecidableEq α] {names : List α} {name : α}
    (mem : name ∈ names) (own : List (α × β)) :
    (own.filter fun member => names.contains member.1).lookup name = own.lookup name := by
  induction own with
  | nil => rfl
  | cons member members ih =>
      rcases member with ⟨first, value⟩
      by_cases same : name = first
      · subst same
        simp [mem]
      · rw [List.filter_cons]
        split
        · simp only [lookup_cons_eq, ih]
        · simp only [lookup_cons_eq, if_neg same, ih]

theorem member?_record_eq_some {own : List (String × Json)} (distinct : (own.map Prod.fst).Nodup)
    {name : String} {value : Json} :
    (record own).member? name = some value ↔ (name, value) ∈ own := by
  rw [member?_record]
  constructor
  · intro found
    rcases List.lookup_eq_some_iff.mp found with ⟨before, after, split, _⟩
    rw [← List.mem_reverse, split]
    simp
  · intro mem
    apply lookup_of_mem
    · rw [List.map_reverse]
      exact List.nodup_reverse.mpr distinct
    · exact List.mem_reverse.mpr mem

theorem exists_record_of_texts (texts : (Json.object members).member? none = none) :
    ∃ own : List (String × Json), members = own.map fun (name, value) => (some name, value) := by
  rw [member?, List.lookup_eq_none_iff] at texts
  induction members with
  | nil => exact ⟨[], rfl⟩
  | cons member members ih =>
      rcases ih fun later mem => texts later (by simp_all) with ⟨own, rfl⟩
      rcases member with ⟨_ | name, value⟩
      · have absurd := texts (none, value) (by simp)
        simp at absurd
      · exact ⟨(name, value) :: own, rfl⟩

theorem nodup_of_ordered {own : List (String × Json)}
    (ordered : Ordered (own.map fun (name, value) => (some name, value))) :
    (own.map Prod.fst).Nodup := by
  rw [Ordered, List.pairwise_map] at ordered
  rw [List.Nodup, List.pairwise_map]
  apply ordered.imp
  intro member later before same
  apply ne_of_nameBefore before
  exact congrArg some same

end Members

end Json

namespace Settings

variable {settings after : Settings} {name : String} {value : Json}

theorem member?_toJson (settings : Settings) :
    settings.toJson.member? "urlScheme" = some (text settings.urlScheme) ∧
    settings.toJson.member? "essentialFolder" = some (optionalText settings.essentialFolder) ∧
    settings.toJson.member? "generalFolder" = some (optionalText settings.generalFolder) ∧
    settings.toJson.member? "alertOnError" = some (.bool settings.alertOnError) ∧
    settings.toJson.member? "logLevel" = some (text settings.logLevel) :=
  ⟨rfl, rfl, rfl, rfl, rfl⟩

/-- The members that settings are written with. -/
def written (settings : Settings) : List (String × Json) :=
  [("urlScheme", text settings.urlScheme), ("essentialFolder", optionalText settings.essentialFolder),
    ("generalFolder", optionalText settings.generalFolder),
    ("alertOnError", .bool settings.alertOnError), ("logLevel", text settings.logLevel)]

theorem member?_setMember (changed : settings.setMember name value = .ok after) :
    ∀ other ∈ memberNames, after.toJson.member? other =
      if other = name then some value else settings.toJson.member? other := by
  unfold setMember at changed
  split at changed
  · rcases ok_of_map changed with ⟨content, read, rfl⟩
    cases eq_text_of_toText read
    simp [memberNames, member?_toJson]
  · rcases ok_of_map changed with ⟨content, read, rfl⟩
    cases eq_optionalText_of_toOptionalText read
    simp [memberNames, member?_toJson]
  · rcases ok_of_map changed with ⟨content, read, rfl⟩
    cases eq_optionalText_of_toOptionalText read
    simp [memberNames, member?_toJson]
  · rcases ok_of_map changed with ⟨switch, read, rfl⟩
    cases eq_bool_of_toBool read
    simp [memberNames, member?_toJson]
  · rcases ok_of_map changed with ⟨content, read, rfl⟩
    cases eq_text_of_toText read
    simp [memberNames, member?_toJson]
  · cases changed
    intro other mem
    have differ : other ≠ name := by
      rintro rfl
      simp_all [memberNames]
    rw [if_neg differ]

/-- Of several changes of one member the last one counts. -/
theorem member?_foldlM {changes : List (String × Json)}
    (changed : changes.foldlM (fun settings (name, value) => settings.setMember name value)
      settings = .ok after) :
    ∀ name ∈ memberNames, after.toJson.member? name =
      (changes.reverse.lookup name).or (settings.toJson.member? name) := by
  induction changes generalizing settings with
  | nil =>
      cases changed
      simp
  | cons change changes ih =>
      rcases change with ⟨first, value⟩
      rw [List.foldlM_cons] at changed
      rcases ok_of_bind changed with ⟨next, changedFirst, changed⟩
      intro name mem
      rw [ih changed name mem, member?_setMember changedFirst name mem, List.reverse_cons,
        List.lookup_append, Option.or_assoc]
      congr 1
      rw [lookup_cons_eq, List.lookup_nil]
      split <;> simp

/-- Settings that are read from an object have its values, and its names are texts. -/
theorem member?_of_ofJson {members : List Member} (read : ofJson (.object members) = .ok settings) :
    (Json.object members).member? none = none ∧
      ∀ name ∈ memberNames, settings.toJson.member? name =
        ((Json.object members).member? name).or (default.toJson.member? name) := by
  unfold ofJson at read
  rcases ok_of_bind read with ⟨present, readMembers, read⟩
  rcases ok_of_bind read with ⟨folded, changed, read⟩
  cases read
  unfold Json.members at readMembers
  rcases ok_of_bind readMembers with ⟨names, named, readMembers⟩
  rcases record_of_memberNames named with ⟨own, rfl, rfl⟩
  have whole : Json.object (own.map fun (name, value) => (some name, value)) = record own := rfl
  have paired : (own.map Prod.fst).zip
      ((own.map fun (name, value) => (some name, value)).map Prod.snd) = own := by
    simp [List.zip_map', Function.comp_def]
  rw [whole]
  refine ⟨member?_record_none own, ?_⟩
  split at readMembers
  · cases readMembers
  · cases readMembers
    intro name mem
    rw [member?_foldlM changed name mem, member?_record, paired, ← List.filter_reverse,
      lookup_filter mem]

section Amending

variable {members changes : List Member}

/-- Members in order that are all named by texts and hold the values of some settings are read as
these settings. -/
theorem ofJson_of_ordered (ordered : Ordered members)
    (texts : (Json.object members).member? none = none)
    (values : ∀ name ∈ memberNames,
      settings.toJson.member? name = (Json.object members).member? name) :
    ofJson (.object members) = .ok settings := by
  rcases exists_record_of_texts texts with ⟨own, rfl⟩
  have whole : Json.object (own.map fun (name, value) => (some name, value)) = record own := rfl
  have distinct := nodup_of_ordered ordered
  have names : settings.written.map Prod.fst = memberNames := rfl
  have declared : (settings.written.map Prod.fst).Nodup := by
    rw [names]
    decide
  rw [whole] at values ⊢
  -- the members that settings have are those of the settings, in some order
  have held : (own.filter fun member => memberNames.contains member.1).Perm settings.written := by
    rw [List.perm_ext_iff_of_nodup]
    · rintro ⟨name, value⟩
      rw [List.mem_filter, ← member?_record_eq_some distinct, ← member?_record_eq_some declared]
      constructor
      · rintro ⟨found, known⟩
        exact (values name (by simpa using known)).trans found
      · intro found
        have known : name ∈ memberNames := by
          rw [← names]
          exact List.mem_map_of_mem ((member?_record_eq_some declared).mp found)
        exact ⟨(values name known).symm.trans found, by simpa using known⟩
    · exact (distinct.of_map _).filter _
    · exact declared.of_map _
  have arranged : own.Perm
      (settings.written ++ own.filter fun member => !memberNames.contains member.1) :=
    (List.filter_append_perm _ own).symm.trans (held.append_right _)
  apply reads_toJson settings
  refine .record (.refl settings.written) arranged ?_
  intro other mem
  have unknown := (List.mem_filter.mp mem).2
  change other.1 ∉ settings.written.map Prod.fst
  rw [names]
  simpa using unknown

theorem plain_of_member? (mem : name ∈ memberNames)
    (held : settings.toJson.member? name = some value) (members : List Member) :
    value ≠ .object members := by
  rintro rfl
  simp only [memberNames, List.mem_cons, List.not_mem_nil, or_false] at mem
  rcases mem with rfl | rfl | rfl | rfl | rfl
  all_goals simp [member?_toJson, text, optionalText_ne_object] at held

theorem exists_member? (settings : Settings) (mem : name ∈ memberNames) :
    ∃ value, settings.toJson.member? name = some value := by
  simp only [memberNames, List.mem_cons, List.not_mem_nil, or_false] at mem
  rcases mem with rfl | rfl | rfl | rfl | rfl
  all_goals simp [member?_toJson]

/-- Values that some settings have, one for each member, are the values of settings. -/
theorem exists_of_values {values : String → Option Json}
    (each : ∀ name ∈ memberNames, ∃ source : Settings, source.toJson.member? name = values name) :
    ∃ settings : Settings, ∀ name ∈ memberNames, settings.toJson.member? name = values name := by
  rcases each "urlScheme" (by simp [memberNames]) with ⟨first, urlScheme⟩
  rcases each "essentialFolder" (by simp [memberNames]) with ⟨second, essentialFolder⟩
  rcases each "generalFolder" (by simp [memberNames]) with ⟨third, generalFolder⟩
  rcases each "alertOnError" (by simp [memberNames]) with ⟨fourth, alertOnError⟩
  rcases each "logLevel" (by simp [memberNames]) with ⟨fifth, logLevel⟩
  refine ⟨⟨first.urlScheme, second.essentialFolder, third.generalFolder, fourth.alertOnError,
    fifth.logLevel⟩, ?_⟩
  intro name mem
  simp only [memberNames, List.mem_cons, List.not_mem_nil, or_false] at mem
  rcases mem with rfl | rfl | rfl | rfl | rfl
  · exact urlScheme
  · exact essentialFolder
  · exact generalFolder
  · exact alertOnError
  · exact logLevel

/-- A change makes settings if all its names are texts and every member can have the value that the
change gives it. The members that the change does not name keep theirs. -/
theorem ofJson_merge_eq_ok_iff (before : Settings) :
    ofJson (before.toJson.merge (.object changes)) = .ok settings ↔
      (Json.object changes).member? none = none ∧
        ∀ name ∈ memberNames, settings.toJson.member? name =
          ((Json.object changes).member? name).or (before.toJson.member? name) := by
  have whole : ∃ members, before.toJson = .object members := ⟨_, rfl⟩
  have unnamed : before.toJson.member? none = none := member?_record_none before.written
  rcases whole with ⟨members, whole⟩
  constructor
  · intro read
    rw [whole, merge] at read
    rcases member?_of_ofJson read with ⟨texts, values⟩
    rw [← merge, ← whole] at texts values
    constructor
    · rw [whole, member?_merge_eq_none_iff] at texts
      exact texts.1
    · intro name mem
      rcases exists_member? settings mem with ⟨value, held⟩
      rcases exists_member? before mem with ⟨old, was⟩
      -- no member of settings holds an object, so nothing was merged into the value
      have plain := plain_of_member? mem held
      have kept : (before.toJson.merge (.object changes)).member? name ≠ none := by
        rw [whole, Ne, member?_merge_eq_none_iff, ← whole, was]
        simp
      have merged : (before.toJson.merge (.object changes)).member? name = some value := by
        rcases Option.ne_none_iff_exists'.mp kept with ⟨other, same⟩
        have given := values name mem
        rw [held, same, Option.some_or] at given
        rw [same, given]
      rw [whole, member?_merge_eq_some_iff plain, ← whole] at merged
      rw [held, merged]
  · rintro ⟨texts, values⟩
    rw [whole, merge]
    apply ofJson_of_ordered
    · exact ordered_mergeMembers (ordered_inOrder members) changes
    · rw [← merge, member?_merge_eq_none_iff, ← whole]
      exact ⟨texts, unnamed⟩
    · intro name mem
      rcases exists_member? settings mem with ⟨value, held⟩
      have given := values name mem
      rw [held] at given
      rw [held, ← merge, eq_comm, member?_merge_eq_some_iff (plain_of_member? mem held), ← whole,
        ← given]

end Amending

end Settings

end CommandUrl

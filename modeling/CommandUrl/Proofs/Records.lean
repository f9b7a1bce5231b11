import CommandUrl.Proofs.Json.Record
import CommandUrl.Records

/-!
# Records are read back

What is stored, or passed on to another program, comes back as what it was. The
writer need not be the same program: the members of a record may come in any
order, with white space around everything, and with members that this reader
does not know.

Each type has two facts, that its form is written as a text of it and that its
reader reads the form in every arrangement. The readers differ in one point.
Those of most records ask for each member by its name. The settings are read in
one pass over the members that are there, so that what matters for them is that
the passes over two members may be exchanged.
-/

namespace CommandUrl

open Json

namespace LinkKind

theorem ofName?_name (kind : LinkKind) : ofName? kind.name = some kind := by
  cases kind <;> decide

theorem reads_toJson (kind : LinkKind) : Reads ofJson kind.toJson kind :=
  reads_name (ofName?_name kind)

end LinkKind

namespace SpecialFolder

theorem ofName?_name (folder : SpecialFolder) : ofName? folder.name = some folder := by
  cases folder <;> decide

theorem reads_toJson (folder : SpecialFolder) : Reads ofJson folder.toJson folder :=
  reads_name (ofName?_name folder)

end SpecialFolder

namespace Verb

theorem reads_toJson (verb : Verb) : Reads ofJson verb.toJson verb :=
  reads_name (ofName?_name verb)

end Verb

namespace Link

theorem written_toJson (link : Link) : Written link.toJson link.toJson.compact :=
  written_record ⟨written_text _, written_text _, written_text _⟩

theorem reads_toJson (link : Link) : Reads ofJson link.toJson link := by
  intro value rearranged
  have distinct : memberNames.Nodup := by decide
  rcases members_of_rearranged distinct rearranged rfl 2 "struct CollectionLink" with
    ⟨present, read, provides, whole⟩
  have url := provides.required_eq "url" (by simp) (reads_text link.url)
  have path := provides.required_eq "path" (by simp) (reads_text link.path)
  have kind := provides.defaulted_eq "linkType" (by simp) link.kind.reads_toJson .unknown
  simp only [ofJson, read, url, path, kind, whole, bind, Except.bind]
  rfl

end Link

namespace Window

theorem written_toJson (window : Window) : Written window.toJson window.toJson.compact :=
  written_record ⟨written_natural _, window.link.written_toJson⟩

theorem reads_toJson (window : Window) (fits : window.id < Nat.pow 2 64) :
    Reads ofJson window.toJson window := by
  intro value rearranged
  have distinct : memberNames.Nodup := by decide
  rcases members_of_rearranged distinct rearranged rfl 2 "struct WindowHandle" with
    ⟨present, read, provides, whole⟩
  have id := provides.required_eq "id" (by simp) (reads_natural fits)
  have link := provides.required_eq "link" (by simp) window.link.reads_toJson
  simp only [ofJson, read, id, link, whole, bind, Except.bind]
  rfl

end Window

namespace NoteRef

theorem written_toJson (note : NoteRef) : Written note.toJson note.toJson.compact :=
  written_record ⟨written_text _, written_text _, written_optionalText _⟩

theorem reads_toJson (note : NoteRef) : Reads ofJson note.toJson note := by
  intro value rearranged
  have distinct : memberNames.Nodup := by decide
  rcases members_of_rearranged distinct rearranged rfl 3 "struct NoteRef" with
    ⟨present, read, provides, whole⟩
  have id := provides.required_eq "id" (by simp) (reads_text note.id)
  have title := provides.required_eq "title" (by simp) (reads_text note.title)
  have filePath := provides.defaulted_eq "filePath" (by simp)
    (reads_optionalText note.filePath) none
  simp only [ofJson, read, id, title, filePath, whole, bind, Except.bind]
  rfl

end NoteRef

namespace Schema

theorem written_toJson (schema : Schema) : Written schema.toJson schema.toJson.compact := by
  refine written_record ⟨written_array ?_, written_bool _⟩
  intro item mem
  rcases List.mem_map.mp mem with ⟨label, _, rfl⟩
  exact written_text label

theorem reads_toJson (schema : Schema) : Reads ofJson schema.toJson schema := by
  intro value rearranged
  have distinct : memberNames.Nodup := by decide
  rcases members_of_rearranged distinct rearranged rfl 2 "struct CollectionSchema" with
    ⟨present, read, provides, whole⟩
  have labels := provides.required_eq "fieldLabels" (by simp) (reads_texts schema.fieldLabels)
  have timestamp := provides.required_eq "hasTimestamp" (by simp) (reads_bool schema.hasTimestamp)
  simp only [ofJson, read, labels, timestamp, whole, bind, Except.bind]
  rfl

end Schema

namespace Parameter

theorem written_toJson (parameter : Parameter) :
    Written parameter.toJson parameter.toJson.compact :=
  written_record ⟨written_text _, written_text _⟩

theorem reads_toJson (parameter : Parameter) : Reads ofJson parameter.toJson parameter := by
  intro value rearranged
  have distinct : memberNames.Nodup := by decide
  rcases members_of_rearranged distinct rearranged rfl 2 "struct QueryParam" with
    ⟨present, read, provides, whole⟩
  have label := provides.required_eq "label" (by simp) (reads_text parameter.label)
  have content := provides.required_eq "value" (by simp) (reads_text parameter.value)
  simp only [ofJson, read, label, content, whole, bind, Except.bind]
  rfl

end Parameter

namespace Settings

theorem written_toJson (settings : Settings) :
    Written settings.toJson settings.toJson.compact :=
  written_record ⟨written_text _, written_optionalText _, written_optionalText _, written_bool _,
    written_text _⟩

/-- The settings with one member taken over from the target. -/
def adopt (target settings : Settings) (name : String) : Settings :=
  match name with
  | "urlScheme" => { settings with urlScheme := target.urlScheme }
  | "essentialFolder" => { settings with essentialFolder := target.essentialFolder }
  | "generalFolder" => { settings with generalFolder := target.generalFolder }
  | "alertOnError" => { settings with alertOnError := target.alertOnError }
  | "logLevel" => { settings with logLevel := target.logLevel }
  | _ => settings

theorem adopt_comm (target settings : Settings) (name other : String) :
    adopt target (adopt target settings name) other =
      adopt target (adopt target settings other) name := by
  simp only [adopt]
  split <;> split <;> rfl

variable {target : Settings}

theorem setMember_of_rearranged {name : String} {value other : Json}
    (mem : (name, value) ∈ [("urlScheme", text target.urlScheme),
      ("essentialFolder", optionalText target.essentialFolder),
      ("generalFolder", optionalText target.generalFolder),
      ("alertOnError", .bool target.alertOnError), ("logLevel", text target.logLevel)])
    (rearranged : Rearranged value other) (settings : Settings) :
    settings.setMember name other = .ok (adopt target settings name) := by
  simp only [List.mem_cons, List.not_mem_nil, or_false, Prod.mk.injEq] at mem
  rcases mem with ⟨rfl, rfl⟩ | ⟨rfl, rfl⟩ | ⟨rfl, rfl⟩ | ⟨rfl, rfl⟩ | ⟨rfl, rfl⟩
  · simp only [setMember, reads_text target.urlScheme other rearranged]
    rfl
  · simp only [setMember, reads_optionalText target.essentialFolder other rearranged]
    rfl
  · simp only [setMember, reads_optionalText target.generalFolder other rearranged]
    rfl
  · simp only [setMember, reads_bool target.alertOnError other rearranged]
    rfl
  · simp only [setMember, reads_text target.logLevel other rearranged]
    rfl

theorem foldlM_setMember {members : List (String × Json)}
    (each : ∀ name value, (name, value) ∈ members → ∀ settings : Settings,
      settings.setMember name value = .ok (adopt target settings name)) (settings : Settings) :
    members.foldlM (fun settings (name, value) => settings.setMember name value) settings =
      .ok ((members.map Prod.fst).foldl (adopt target) settings) := by
  induction members generalizing settings with
  | nil => rfl
  | cons member members ih =>
      rcases member with ⟨name, value⟩
      have first := each name value List.mem_cons_self settings
      have rest := ih fun name value mem => each name value (List.mem_cons_of_mem _ mem)
      simp only [List.foldlM_cons, first]
      exact rest _

theorem reads_toJson (settings : Settings) : Reads ofJson settings.toJson settings := by
  intro value rearranged
  have distinct : memberNames.Nodup := by decide
  rcases members_of_rearranged distinct rearranged rfl 0 "struct AppSettings" with
    ⟨present, read, provides, whole⟩
  have each : ∀ name value, (name, value) ∈ present → ∀ before : Settings,
      before.setMember name value = .ok (adopt settings before name) := by
    intro name other mem before
    rcases provides.declared name other mem with ⟨value, declared, rearranged⟩
    exact setMember_of_rearranged declared rearranged before
  have folded := foldlM_setMember each default
  -- the order of the members does not matter, so they may be taken as they are declared
  have adopted : (present.map Prod.fst).foldl (adopt settings) default = settings := by
    rw [provides.names.foldl_eq' fun name _ other _ before => adopt_comm settings before name other]
    rfl
  simp only [ofJson, read, folded, adopted, whole, bind, Except.bind]
  rfl

end Settings

/-- Every record comes back from the text that it is written as, and so it does from every text of
every arrangement of its form. An identity of a window is a number of 64 bits. -/
theorem records_read_back :
    (∀ kind : LinkKind, ReadBack LinkKind.ofJson kind.toJson kind) ∧
    (∀ folder : SpecialFolder, ReadBack SpecialFolder.ofJson folder.toJson folder) ∧
    (∀ verb : Verb, ReadBack Verb.ofJson verb.toJson verb) ∧
    (∀ link : Link, ReadBack Link.ofJson link.toJson link) ∧
    (∀ window : Window, window.id < Nat.pow 2 64 → ReadBack Window.ofJson window.toJson window) ∧
    (∀ note : NoteRef, ReadBack NoteRef.ofJson note.toJson note) ∧
    (∀ schema : Schema, ReadBack Schema.ofJson schema.toJson schema) ∧
    (∀ parameter : Parameter, ReadBack Parameter.ofJson parameter.toJson parameter) ∧
    ∀ settings : Settings, ReadBack Settings.ofJson settings.toJson settings :=
  ⟨fun kind => kind.reads_toJson.readBack (written_text _),
    fun folder => folder.reads_toJson.readBack (written_text _),
    fun verb => verb.reads_toJson.readBack (written_text _),
    fun link => link.reads_toJson.readBack link.written_toJson,
    fun window fits => (window.reads_toJson fits).readBack window.written_toJson,
    fun note => note.reads_toJson.readBack note.written_toJson,
    fun schema => schema.reads_toJson.readBack schema.written_toJson,
    fun parameter => parameter.reads_toJson.readBack parameter.written_toJson,
    fun settings => settings.reads_toJson.readBack settings.written_toJson⟩

/-- The greatest identity, in a text that has the link first and a member that is not known after
it. -/
theorem window_read_back_rearranged :
    let window : Window := ⟨18446744073709551615, "file:///a", "/a", .file⟩
    let other : Json :=
      .record [("link", window.link.toJson), ("owner", .null), ("id", .natural window.id)]
    window.id < Nat.pow 2 64 ∧ readAs? Window.ofJson other.compact = some window := by
  intro window other
  have fits : window.id < Nat.pow 2 64 := by decide
  have order : [("link", window.link.toJson), ("owner", .null), ("id", natural window.id)].Perm
      ([("id", natural window.id), ("link", window.link.toJson)] ++ [("owner", .null)]) :=
    List.perm_append_singleton ("id", natural window.id)
      [("link", window.link.toJson), ("owner", .null)]
  have arranged : Rearranged window.toJson other := .record (.refl _) order (by simp)
  have written : Written other other.compact :=
    written_record ⟨window.link.written_toJson, rfl, written_natural window.id⟩
  rcases records_read_back with ⟨-, -, -, -, windows, -⟩
  exact ⟨fits, (windows window fits).arranged other _ arranged (padded_of_written written)⟩

end CommandUrl

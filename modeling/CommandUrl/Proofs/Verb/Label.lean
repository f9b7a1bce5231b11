import CommandUrl.Proofs.Acceptance
import CommandUrl.Proofs.Command
import CommandUrl.Proofs.Text.CommonForm
import CommandUrl.Proofs.Verb.Content
import CommandUrl.Proofs.Verb.Run

/-!
# How labels reach the draft

The values of a query are decoded and its labels are not, so that a label is what the
address has made of it: a character that may not stand in a query is left as its
escapes. A field is set by its label exactly where nothing of the label is escaped.
Otherwise the label that is read has more letters and numbers in it than the label that
was written, since the digits of the escapes are among them, and its common form is not
that of the field.
-/

namespace CommandUrl

namespace Query

open Percent

/-- The label that is read where a label has been written. -/
def readLabel (label : String) : String :=
  String.ofList (encode (Address.escapedInQuery .ordinary) label.toList)

section Characters

variable {c : Char}

theorem isLabelChar_of_isEscapeChar (escape : isEscapeChar c) : isLabelChar c := by
  have bounds := toNat_of_isEscapeChar escape
  have noAmpersand : c ≠ '&' := Address.ne_of_class escape (by decide)
  have noEquals : c ≠ '=' := Address.ne_of_class escape (by decide)
  have noHash : c ≠ '#' := Address.ne_of_class escape (by decide)
  have noQuote : c ≠ '"' := Address.ne_of_class escape (by decide)
  have noLess : c ≠ '<' := Address.ne_of_class escape (by decide)
  have noGreater : c ≠ '>' := Address.ne_of_class escape (by decide)
  simp [isLabelChar, noAmpersand, noEquals, noHash, noQuote, noLess, noGreater]
  omega

theorem isLabelChar_iff (plain : isReserved c = false) :
    isLabelChar c ↔ c.toNat < 0x80 ∧ Address.escapedInQuery .ordinary c = false := by
  constructor
  · exact kept_of_isLabelChar
  · rintro ⟨ascii, kept⟩
    have noBlank : c.toNat ≠ 0x20 := by
      intro same
      have blank : c = ' ' := Char.toNat_inj.mp same
      subst blank
      cases kept
    simp [Address.escapedInQuery, isControl] at kept
    simp [isReserved] at plain
    simp [isLabelChar, kept, plain]
    omega

end Characters

theorem unreserved_of_all {text : List Char} (all : text.all (!isReserved ·) = true) :
    ∀ c ∈ text, isReserved c = false := by
  intro c mem
  simpa using List.all_eq_true.mp all c mem

section Labels

variable {label : String} (plain : ∀ c ∈ label.toList, isReserved c = false)

include plain

theorem isLabelChar_of_mem_readLabel : ∀ c ∈ (readLabel label).toList, isLabelChar c := by
  intro c mem
  simp only [readLabel, String.toList_ofList] at mem
  rcases kept_of_mem_encode mem with kept | escape
  · rcases mem_encode mem with inside | escape
    · exact (isLabelChar_iff (plain c inside)).mpr kept
    · exact isLabelChar_of_isEscapeChar escape
  · exact isLabelChar_of_isEscapeChar escape

theorem readLabel_eq_self_iff : readLabel label = label ↔ ∀ c ∈ label.toList, isLabelChar c := by
  constructor
  · intro same
    rw [← same]
    exact isLabelChar_of_mem_readLabel plain
  · intro labelled
    have kept := encode_of_kept fun c mem => kept_of_isLabelChar (labelled c mem)
    simp only [readLabel, kept, String.ofList_toList]

/-- A label with a character that is escaped is not matched by what is read of it. -/
theorem commonForm_readLabel_ne (escaped : ¬ ∀ c ∈ label.toList, isLabelChar c) :
    commonForm (readLabel label) ≠ commonForm label := by
  have outside : ∃ c ∈ label.toList,
      ¬ (c.toNat < 0x80 ∧ Address.escapedInQuery .ordinary c = false) := by
    by_contra none
    apply escaped
    intro c mem
    rw [isLabelChar_iff (plain c mem)]
    by_contra kept
    exact none ⟨c, mem, kept⟩
  intro same
  have longer := Text.length_commonForm_lt outside
  have lists := congrArg String.toList same
  simp only [commonForm, readLabel, String.toList_ofList] at lists
  rw [lists] at longer
  exact absurd longer (Nat.lt_irrefl _)

end Labels

/-- Escaping leaves a label without a percent sign only if it leaves it as it is. -/
theorem readLabel_of_not_mem {label : String} (absent : '%' ∉ (readLabel label).toList) :
    readLabel label = label := by
  have whole : encode (Address.escapedInQuery .ordinary) label.toList =
      (readLabel label).toList ++ [] := by
    simp [readLabel]
  rcases split_of_encode whole absent with ⟨rest, split, encoded⟩
  rw [eq_nil_of_encode encoded, List.append_nil] at split
  exact String.toList_inj.mp split.symm

section Pieces

variable {shortcut label value : String} {shortcutWritten valueWritten : List Char}

theorem parameters_of_label (shortcutWrites : Writes shortcut.toList shortcutWritten)
    (plain : ∀ c ∈ label.toList, isReserved c = false)
    (valueWrites : Writes value.toList valueWritten) :
    parameters (encode (Address.escapedInQuery .ordinary)
      ("shortcut=".toList ++ shortcutWritten ++ '&' :: label.toList ++ '=' :: valueWritten)) =
        [⟨"shortcut", shortcut⟩, ⟨readLabel label, value⟩] := by
  have opener : "shortcut".toList.all isLabelChar = true := by decide +kernel
  have first : WritesParameter ⟨"shortcut", shortcut⟩
      ("shortcut".toList ++ '=' :: shortcutWritten) :=
    ⟨List.all_eq_true.mp opener, shortcutWritten, shortcutWrites, rfl⟩
  have second : WritesParameter ⟨readLabel label, value⟩
      ((readLabel label).toList ++ '=' :: valueWritten) :=
    ⟨isLabelChar_of_mem_readLabel plain, valueWritten, valueWrites, rfl⟩
  have again : encode (Address.escapedInQuery .ordinary) (readLabel label).toList =
      encode (Address.escapedInQuery .ordinary) label.toList := by
    rw [encode_of_kept fun c mem =>
      kept_of_isLabelChar (isLabelChar_of_mem_readLabel plain c mem)]
    simp [readLabel]
  have equals : "shortcut=".toList = "shortcut".toList ++ ['='] := rfl
  have read := parameters_of_writes (.cons first (.cons second .nil))
  simp only [Text.join, encode_append, encode_cons, again] at read
  rw [equals]
  simp only [encode_append, encode_cons, encode_nil, List.append_assoc, List.append_nil]
    at read ⊢
  exact read

end Pieces

end Query

namespace Verb

/-- The labels that `add` takes for something other than a field. -/
def reservedLabels : List String :=
  ["shortcut", "path", "special", "title", "name", "body", "note", "date", "due", "completed"]

section Reserved

variable {label : String}

theorem content_of_unreserved (unreserved : label ∉ reservedLabels) (value : String) :
    (⟨label, value⟩ : Parameter).locator? = none ∧ Slot.ofLabel label = .field label := by
  simp only [reservedLabels, List.mem_cons, List.not_mem_nil, or_false, not_or] at unreserved
  constructor
  · unfold Parameter.locator?
    split <;> simp_all
  · unfold Slot.ofLabel
    split <;> simp_all

theorem readLabel_unreserved (unreserved : label ∉ reservedLabels) :
    Query.readLabel label ∉ reservedLabels := by
  intro mem
  have absent : ∀ reserved ∈ reservedLabels, '%' ∉ reserved.toList := by decide
  rw [Query.readLabel_of_not_mem (absent _ mem)] at mem
  exact unreserved mem

end Reserved

section Fields

variable {σ : Type} {host : Host σ} {locator : Locator} {window : Window} {schema : Schema}
  {conversation : Conversation σ}

/-- Where the collection is found and has a schema, a new draft is begun in it. -/
theorem beginDraft_run (resolved : (locator.resolve host conversation).1 = .ok window)
    (answered : (Dialogue.ask host (.schema window) (locator.resolve host conversation).2).1 =
      some schema) (context : Context) :
    (beginDraft host locator : Handling σ Unit).run.run context conversation =
      ((.ok (), { context with collection := some window, draft := some (.new schema) }),
        (Dialogue.ask host (.schema window) (locator.resolve host conversation).2).2) := by
  have sought : locator.resolve host conversation =
      (.ok window, (locator.resolve host conversation).2) := Prod.ext resolved rfl
  have told : Dialogue.ask host (.schema window) (locator.resolve host conversation).2 =
      (some schema, (Dialogue.ask host (.schema window) (locator.resolve host conversation).2).2) :=
    Prod.ext answered rfl
  have asked : (Handling.ask host (.schema window) : Handling σ _).run.run
      { context with collection := some window } (locator.resolve host conversation).2 = _ :=
    Handling.run_lift_of_run told
  rw [beginDraft, Handling.run_bind_of_ok _ (Handling.run_establish_of_ok sought),
    Handling.run_bind_of_ok _ asked]
  rfl

theorem carryOut_add_field {shortcut label : String} (unreserved : label ∉ reservedLabels)
    (resolved : (Locator.resolve host { shortcut := some shortcut } conversation).1 = .ok window)
    (answered : (Dialogue.ask host (.schema window)
      (Locator.resolve host { shortcut := some shortcut } conversation).2).1 = some schema)
    (value : String) (report : Report) :
    let opened := (Dialogue.ask host (.schema window)
      (Locator.resolve host { shortcut := some shortcut } conversation).2).2
    let written := (Draft.new schema).setField? label value
    let ended := add.carryOut host [⟨"shortcut", shortcut⟩, ⟨label, value⟩] report conversation
    ∃ answer,
      ended.2.business =
        opened.business ++ [⟨.addNote window (written.getD (.new schema)), answer⟩] ∧
      ended.1.2.entries = report.entries ++
        (if written.isSome then [] else [.failure (.fieldSetFailed label)]) ++
          [addedEntry answer] := by
  intro opened written ended
  let begun : Standing σ :=
    ⟨{ collection := some window, draft := some (.new schema) },
      { report with verb := add.name }, opened⟩
  have first : add.take host ⟨{}, { report with verb := add.name }, conversation⟩
      ⟨"shortcut", shortcut⟩ = begun :=
    take_of_ok host add (beginDraft_run resolved answered {})
  let last := add.take host begun ⟨label, value⟩
  have carried : ended = add.ending host last := by
    have stands : add.standing host [⟨"shortcut", shortcut⟩, ⟨label, value⟩] report conversation =
        some last := by
      simp only [last, ← first]
      rfl
    exact carryOut_of_standing stands
  have left : last.context.collection = some window ∧
      last.context.draft = some (written.getD (.new schema)) ∧
      last.conversation.business = opened.business ∧
      last.report.entries =
        report.entries ++ if written.isSome then [] else [.failure (.fieldSetFailed label)] := by
    rcases content_of_unreserved unreserved value with ⟨content, slot⟩
    have taken : last = _ := take_content content
    have writes : begun.context.draft.bind (⟨label, value⟩ : Parameter).write? = written := by
      simp [begun, Parameter.write?, slot, Slot.write?, written]
    rw [writes] at taken
    rw [taken]
    cases written with
    | some draft => simp [begun]
    | none => simp [begun, unwritten, Report.fail_business]
  rcases left with ⟨known, held, business, entries⟩
  rcases ending_of_draft host known held with ⟨answer, added, entered⟩
  refine ⟨answer, ?_, ?_⟩
  · rw [carried, added, business]
  · rw [carried, entered, entries]

theorem fields_of_readLabel {label value : String}
    (plain : ∀ c ∈ label.toList, Query.isReserved c = false)
    (declared : schema.fieldLabels.find? (commonForm · = commonForm label) = some label)
    (named : commonForm label ≠ "") :
    let written := (Draft.new schema).setField? (Query.readLabel label) value
    let draft := written.getD (.new schema)
    draft.schema = schema ∧
      (draft.fields.lookup label = some value ↔ ∀ c ∈ label.toList, Query.isLabelChar c) ∧
      ((∀ c ∈ label.toList, Query.isLabelChar c) → written.isSome ∧
        draft.fields = [(label, value)]) := by
  intro written draft
  by_cases labelled : ∀ c ∈ label.toList, Query.isLabelChar c
  · have known : schema.declared? label = some label :=
      Schema.declared?_eq_some.mpr ⟨declared, named⟩
    have same : Query.readLabel label = label := (Query.readLabel_eq_self_iff plain).mpr labelled
    have wrote : written = some { Draft.new schema with fields := [(label, value)] } := by
      simp [written, same, Draft.setField?, Draft.new, known, Draft.putField]
    have fields : draft.fields = [(label, value)] := by simp [draft, wrote]
    have set : draft.fields.lookup label = some value := by simp [fields]
    refine ⟨by simp [draft, wrote, Draft.new], ⟨fun _ => labelled, fun _ => set⟩, ?_⟩
    intro _
    exact ⟨by simp [wrote], fields⟩
  · have apart := Query.commonForm_readLabel_ne plain labelled
    have unset : draft.schema = schema ∧ draft.fields.lookup label = none := by
      cases found : schema.declared? (Query.readLabel label) with
      | none =>
          have refused : written = none := by
            simp [written, Draft.setField?, Draft.new, found]
          simp [draft, refused, Draft.new]
      | some other =>
          have wrote : written = some { Draft.new schema with fields := [(other, value)] } := by
            simp [written, Draft.setField?, Draft.new, found, Draft.putField]
          have differ : (label == other) = false := by
            rw [beq_eq_false_iff_ne]
            rintro rfl
            exact apart (Schema.commonForm_of_declared? found).symm
          simp [draft, wrote, Draft.new, List.lookup_cons, differ]
    rcases unset with ⟨bound, unset⟩
    refine ⟨bound, ⟨?_, fun all => absurd all labelled⟩, fun all => absurd all labelled⟩
    intro set
    rw [unset] at set
    cases set

end Fields

end Verb

namespace Interpreter

variable {σ : Type}

section Request

variable {settings : Settings} {raw shortcut label value : String}
  {shortcutWritten valueWritten : List Char}

/-- Nothing in the query ends it or falls away from it. -/
theorem counted_of_label (shortcutWrites : Query.Writes shortcut.toList shortcutWritten)
    (plain : ∀ c ∈ label.toList, Query.isReserved c = false)
    (valueWrites : Query.Writes value.toList valueWritten) :
    ∀ c ∈ "shortcut=".toList ++ shortcutWritten ++ '&' :: label.toList ++ '=' :: valueWritten,
      c ≠ '#' ∧ Address.isIgnored c = false := by
  intro c mem
  by_contra uncounted
  have foreign : c = '#' ∨ Address.isIgnored c := by
    rw [not_and_or, not_not, Bool.not_eq_false] at uncounted
    exact uncounted
  have apart : Query.isReserved c ∧ Percent.isEscapeChar c = false ∧
      c ∉ "shortcut=".toList ∧ c ≠ '&' ∧ c ≠ '=' := by
    simp only [Address.isIgnored, Bool.or_eq_true, decide_eq_true_eq, or_assoc] at foreign
    rcases foreign with rfl | rfl | rfl | rfl <;> decide
  rcases apart with ⟨reserved, unescaped, unnamed, noAmpersand, noEquals⟩
  have unwritten {value written : List Char} (writes : Query.Writes value written) :
      c ∉ written := by
    intro inside
    rw [Query.isEscapeChar_of_writes writes reserved inside] at unescaped
    cases unescaped
  simp only [List.mem_append, List.mem_cons] at mem
  rcases mem with ((inName | inShortcut) | rfl | inLabel) | rfl | inValue
  · exact unnamed inName
  · exact unwritten shortcutWrites inShortcut
  · exact noAmpersand rfl
  · rw [plain c inLabel] at reserved
    cases reserved
  · exact noEquals rfl
  · exact unwritten valueWrites inValue

theorem request_of_label (scheme : settings.urlScheme = "notenik")
    (shortcutWrites : Query.Writes shortcut.toList shortcutWritten)
    (plain : ∀ c ∈ label.toList, Query.isReserved c = false)
    (valueWrites : Query.Writes value.toList valueWritten)
    (written : raw.toList = "notenik://add?shortcut=".toList ++ shortcutWritten ++
      '&' :: label.toList ++ '=' :: valueWritten)
    (ends : ∀ last, raw.toList.getLast? = some last → 0x20 < last.toNat) :
    request settings raw =
      .ok (.add, [⟨"shortcut", shortcut⟩, ⟨Query.readLabel label, value⟩]) := by
  have plainScheme : Address.PlainScheme "notenik".toList :=
    ⟨⟨'n', "otenik".toList, rfl, by decide, by decide⟩, List.all_eq_true.mp rfl, rfl⟩
  have plainWord : Address.PlainWord "add".toList := ⟨by decide, List.all_eq_true.mp rfl⟩
  have counted := counted_of_label shortcutWrites plain valueWrites
  have parsed := Command.parse_of_query plainScheme plainWord counted written ends
  rw [Query.parameters_of_label shortcutWrites plain valueWrites] at parsed
  unfold request
  rw [scheme, parsed]
  rfl

end Request

/-- What becomes of a label that is written in a command as the collection declares it. The draft
that is added has the value under the label exactly if nothing of the label has to be escaped in a
query, and then it is the only field and nothing is said of a field that was not set. -/
theorem act_add_sets_field {settings : Settings} {raw shortcut label value : String}
    {shortcutWritten valueWritten : List Char} {schema : Schema} {window : Window} {host : Host σ}
    {conversation : Conversation σ} (scheme : settings.urlScheme = "notenik")
    (shortcutWrites : Query.Writes shortcut.toList shortcutWritten)
    (valueWrites : Query.Writes value.toList valueWritten)
    (written : raw.toList = "notenik://add?shortcut=".toList ++ shortcutWritten ++
      '&' :: label.toList ++ '=' :: valueWritten)
    (ends : ∀ last, raw.toList.getLast? = some last → 0x20 < last.toNat)
    (declared : schema.fieldLabels.find? (commonForm · = commonForm label) = some label)
    (named : commonForm label ≠ "") (unreserved : label ∉ Verb.reservedLabels)
    (plain : ∀ c ∈ label.toList, Query.isReserved c = false)
    (resolved : (Locator.resolve host { shortcut := some shortcut } conversation).1 = .ok window)
    (answered : (Dialogue.ask host (.schema window)
      (Locator.resolve host { shortcut := some shortcut } conversation).2).1 = some schema) :
    let opened := (Dialogue.ask host (.schema window)
      (Locator.resolve host { shortcut := some shortcut } conversation).2).2
    let acted := act host settings raw conversation
    acted.1.accepted = true ∧ acted.1.verb = some .add ∧
    ∃ draft answer,
      acted.2.business = opened.business ++ [⟨.addNote window draft, answer⟩] ∧
      draft.schema = schema ∧
      (draft.fields.lookup label = some value ↔ ∀ c ∈ label.toList, Query.isLabelChar c) ∧
      ((∀ c ∈ label.toList, Query.isLabelChar c) → draft.fields = [(label, value)] ∧
        ∀ entry ∈ acted.1.entries, entry.code? ≠ some "FIELD_SET_FAILED") := by
  intro opened acted
  have accepted := request_of_label scheme shortcutWrites plain valueWrites written ends
  have outcome : acted.1 = _ := act_of_accepted accepted conversation
  have business : acted.2.business = _ := act_business_of_accepted accepted conversation
  rcases Verb.carryOut_add_field (Verb.readLabel_unreserved unreserved) resolved answered value
    { alerting := settings.alertOnError } with ⟨answer, added, entries⟩
  rcases Verb.fields_of_readLabel plain declared named with ⟨bound, set, alone⟩
  refine ⟨by rw [outcome], by rw [outcome], _, answer, ?_, bound, set, ?_⟩
  · rw [business]
    exact added
  · intro labelled
    rcases alone labelled with ⟨wrote, fields⟩
    refine ⟨fields, ?_⟩
    intro entry mem
    rw [outcome] at mem
    dsimp only at mem
    rw [entries, if_pos wrote] at mem
    simp only [List.nil_append, List.append_nil, List.mem_singleton] at mem
    rw [mem]
    cases answer with
    | none => simp [Verb.addedEntry, ReportEntry.code?, Failure.code]
    | some note => simp [Verb.addedEntry, ReportEntry.code?]

/-- A label with a hyphen in it, and a value with a blank that is escaped. -/
theorem act_add_sets_field_hyphen :
    let schema : Schema := { fieldLabels := ["Work-Type"], hasTimestamp := false }
    let state : CatalogueState :=
      { catalogue := { shortcuts := [("s", "/c")], schemas := [("/c", some schema)] },
        preferences := {}, lastSelected := none, tree := .ofWorking [] }
    (act catalogueHost {} "notenik://add?shortcut=s&Work-Type=a%20b" { state }).1.accepted = true ∧
      ∃ window draft answer,
        ⟨.addNote window draft, answer⟩ ∈
          (act catalogueHost {} "notenik://add?shortcut=s&Work-Type=a%20b" { state }).2.business ∧
        draft.fields = [("Work-Type", "a b")] ∧
        ∀ entry ∈
          (act catalogueHost {} "notenik://add?shortcut=s&Work-Type=a%20b" { state }).1.entries,
            entry.code? ≠ some "FIELD_SET_FAILED" := by
  intro schema state
  let window : Window := ⟨1, ⟨"file:///c", "/c", .unknown⟩⟩
  have blank : Percent.Escapes [UInt8.ofNat (16 * 2 + 0)] ['%', '2', '0'] := .cons rfl rfl .nil
  have shortcutWrites : Query.Writes "s".toList ['s'] := .raw rfl .nil
  have valueWrites : Query.Writes "a b".toList ('a' :: (['%', '2', '0'] ++ ['b'])) :=
    .raw rfl (.escaped blank (.raw rfl .nil))
  have written : "notenik://add?shortcut=s&Work-Type=a%20b".toList =
      "notenik://add?shortcut=".toList ++ ['s'] ++
        '&' :: "Work-Type".toList ++ '=' :: ('a' :: (['%', '2', '0'] ++ ['b'])) := rfl
  have ends : ∀ last, "notenik://add?shortcut=s&Work-Type=a%20b".toList.getLast? = some last →
      0x20 < last.toNat := by
    rintro last ⟨⟩
    decide
  have declared : schema.fieldLabels.find? (commonForm · = commonForm "Work-Type") =
      some "Work-Type" := by decide +kernel
  have named : commonForm "Work-Type" ≠ "" := by decide +kernel
  have unreserved : "Work-Type" ∉ Verb.reservedLabels := by decide
  have plain : ∀ c ∈ "Work-Type".toList, Query.isReserved c = false :=
    Query.unreserved_of_all rfl
  have labelled : ∀ c ∈ "Work-Type".toList, Query.isLabelChar c := List.all_eq_true.mp rfl
  have resolved : (Locator.resolve catalogueHost { shortcut := some "s" } { state }).1 =
      .ok window := rfl
  have answered : (Dialogue.ask catalogueHost (.schema window)
      (Locator.resolve catalogueHost { shortcut := some "s" } { state }).2).1 = some schema := rfl
  have scheme : ({} : Settings).urlScheme = "notenik" := rfl
  rcases act_add_sets_field scheme shortcutWrites valueWrites written ends declared named
    unreserved plain resolved answered with ⟨accepted, _, draft, answer, added, _, _, alone⟩
  rcases alone labelled with ⟨fields, quiet⟩
  refine ⟨accepted, window, draft, answer, ?_, fields, quiet⟩
  rw [added]
  exact List.mem_append_right _ (List.mem_singleton_self _)

/-- A label with a blank, which is escaped in a query. It has all that is asked of a label, and still
the draft that is added has no field. -/
theorem not_act_add_sets_field_blank :
    let schema : Schema := { fieldLabels := ["Work Type"], hasTimestamp := false }
    let state : CatalogueState :=
      { catalogue := { shortcuts := [("s", "/c")], schemas := [("/c", some schema)] },
        preferences := {}, lastSelected := none, tree := .ofWorking [] }
    let link : Link := ⟨"file:///c", "/c", .unknown⟩
    schema.fieldLabels.find? (commonForm · = commonForm "Work Type") = some "Work Type" ∧
      commonForm "Work Type" ≠ "" ∧ "Work Type" ∉ Verb.reservedLabels ∧
      (∀ c ∈ "Work Type".toList, Query.isReserved c = false) ∧
      (act catalogueHost {} "notenik://add?shortcut=s&Work Type=v" { state }).2.business.map
          Exchange.request =
        [.multiLink "s", .shortcutLink "s", .openWindow link, .schema ⟨1, link⟩,
          .addNote ⟨1, link⟩ (.new schema)] ∧
      (Draft.new schema).fields.lookup "Work Type" = none ∧
      .failure (.fieldSetFailed "Work%20Type") ∈
        (act catalogueHost {} "notenik://add?shortcut=s&Work Type=v" { state }).1.entries := by
  intro schema state link
  have declared : schema.fieldLabels.find? (commonForm · = commonForm "Work Type") =
      some "Work Type" := by decide +kernel
  have named : commonForm "Work Type" ≠ "" := by decide +kernel
  have undeclared : schema.declared? "Work%20Type" = none := by decide +kernel
  have refused : (Draft.new schema).setField? "Work%20Type" "v" = none := by
    simp [Draft.setField?, Draft.new, undeclared]
  have asked : request {} "notenik://add?shortcut=s&Work Type=v" =
      .ok (.add, [⟨"shortcut", "s"⟩, ⟨"Work%20Type", "v"⟩]) := rfl
  have resolved : (Locator.resolve catalogueHost { shortcut := some "s" } { state }).1 =
      .ok ⟨1, link⟩ := rfl
  have answered : (Dialogue.ask catalogueHost (.schema ⟨1, link⟩)
      (Locator.resolve catalogueHost { shortcut := some "s" } { state }).2).1 = some schema := rfl
  have unreserved : "Work%20Type" ∉ Verb.reservedLabels := by decide
  rcases Verb.carryOut_add_field unreserved resolved answered "v" { alerting := true } with
    ⟨answer, added, entries⟩
  rw [refused] at added entries
  refine ⟨declared, named, by decide, Query.unreserved_of_all rfl, ?_, rfl, ?_⟩
  · rw [act_business_of_accepted asked, added, List.map_append]
    rfl
  · rw [act_of_accepted asked]
    dsimp only
    rw [entries]
    simp

end Interpreter

end CommandUrl

import CommandUrl.Proofs.Note.Content

/-!
# Editing a draft

Whatever is written into a draft, and in whatever spelling, its fields stay a
map from labels of the collection. The matching of labels loses much, for a
collection may declare several labels of one common form, or labels without any
letter or number, and a caller may spell a label in any way. What carries the
map through every sequence of edits is that there is something under a label
only if the collection declares it first with its common form; labels of this
kind are told apart by their common forms.
-/

namespace CommandUrl

open Verb (Slot)

/-- The value that was written last to a field with a common form, whether the collection has such a
field or not. -/
def lastField? (common : String) (edits : List (Slot × String)) : Option String :=
  (edits.filter (·.1.common = .field common)).getLast?.map Prod.snd

theorem lastField?_append (common : String) (edits : List (Slot × String))
    (edit : Slot × String) :
    lastField? common (edits ++ [edit]) =
      if edit.1.common = .field common then some edit.2 else lastField? common edits := by
  simp only [lastField?, map_getLast?_filter_append, decide_eq_true_eq]

namespace Schema

variable {schema : Schema} {label declared : String}

theorem mem_of_declared? (found : schema.declared? label = some declared) :
    declared ∈ schema.fieldLabels :=
  List.mem_of_find?_eq_some (declared?_eq_some.mp found).1

/-- A spelling names a field if it has a common form, and some label that is declared has the same. -/
theorem isSome_declared?_iff :
    (schema.declared? label).isSome ↔
      commonForm label ≠ "" ∧
        ∃ declared ∈ schema.fieldLabels, commonForm declared = commonForm label := by
  simp only [Option.isSome_iff_exists, declared?_eq_some, exists_and_right]
  rw [← Option.isSome_iff_exists, List.find?_isSome, and_comm]
  simp

theorem commonForm_ne_of_declared? {one other : String}
    (first : schema.declared? one = some one) (second : schema.declared? other = some other)
    (differ : one ≠ other) : commonForm one ≠ commonForm other := by
  intro same
  rw [declared?_of_commonForm same, second] at first
  exact differ (Option.some.inj first).symm

end Schema

namespace Draft

/-- The draft after one more part of it was written; it is as it was if its collection has no such
part. -/
def edit (draft : Draft) (edit : Slot × String) : Draft :=
  (edit.1.write? draft edit.2).getD draft

theorem edit_field (draft : Draft) (label value : String) :
    draft.edit (.field label, value) =
      { draft with
        fields := (draft.schema.declared? label).elim draft.fields (putField · value draft.fields) } := by
  simp only [edit, Slot.write?, setField?]
  cases draft.schema.declared? label <;> rfl

theorem fields_edit_of_plain {slot : Slot} (plain : ∀ label, slot ≠ .field label) (draft : Draft)
    (value : String) : (draft.edit (slot, value)).fields = draft.fields := by
  cases slot with
  | field label => exact absurd rfl (plain label)
  | _ => rfl

theorem schema_edit (draft : Draft) (edit : Slot × String) :
    (draft.edit edit).schema = draft.schema := by
  rcases edit with ⟨slot, value⟩
  cases slot with
  | field label => rw [edit_field]
  | _ => rfl

/-- A field that was set is under a declared label, and nothing else in the draft has changed. -/
theorem setField?_cases {draft changed : Draft} {label value : String}
    (set : draft.setField? label value = some changed) :
    ∃ declared ∈ draft.schema.fieldLabels, commonForm declared = commonForm label ∧
      changed.fields.lookup declared = some value ∧
      (∀ other, other ≠ declared → changed.fields.lookup other = draft.fields.lookup other) ∧
      { changed with fields := draft.fields } = draft := by
  rcases Option.map_eq_some_iff.mp set with ⟨declared, found, rfl⟩
  refine ⟨declared, Schema.mem_of_declared? found, Schema.commonForm_of_declared? found,
    lookup_putField_self declared value draft.fields, ?_, rfl⟩
  intro other differ
  exact lookup_putField_of_ne differ value draft.fields

/-- After the edits the draft is one for its schema, and what is under a label was written last to
the common form of the label, which no label declared before it has. -/
structure Edited (schema : Schema) (edits : List (Slot × String)) (draft : Draft) : Prop where
  bound : draft.schema = schema
  ordered : Ordered draft.fields
  fields : ∀ label value, draft.fields.lookup label = some value ↔
    schema.declared? label = some label ∧ lastField? (commonForm label) edits = some value

variable {schema : Schema} {edits : List (Slot × String)} {draft : Draft}

theorem edited_new (schema : Schema) : Edited schema [] (new schema) where
  bound := rfl
  ordered := .nil
  fields := by simp [new, lastField?]

theorem Edited.concat (edited : Edited schema edits draft) (edit : Slot × String) :
    Edited schema (edits ++ [edit]) (draft.edit edit) := by
  rcases edit with ⟨slot, value⟩
  have bound := (draft.schema_edit (slot, value)).trans edited.bound
  cases slot with
  | field spelled =>
      refine ⟨bound, ?_, ?_⟩
      · rw [edit_field]
        cases draft.schema.declared? spelled with
        | none => exact edited.ordered
        | some declared => exact ordered_putField declared value edited.ordered
      · intro label latest
        rw [edit_field, edited.bound, lastField?_append]
        simp only [Slot.common, Slot.field.injEq]
        exact lookup_put_declared spelled value (edited.fields label latest)
  | _ =>
      refine ⟨bound, ?_, ?_⟩
      · rw [fields_edit_of_plain (by simp)]
        exact edited.ordered
      · intro label latest
        rw [fields_edit_of_plain (by simp), lastField?_append]
        simpa [Slot.common] using edited.fields label latest

theorem Edited.append (edited : Edited schema edits draft) (more : List (Slot × String)) :
    Edited schema (edits ++ more) (more.foldl Draft.edit draft) := by
  induction more generalizing edits draft with
  | nil => simpa using edited
  | cons edit more ih => simpa using ih (edited.concat edit)

theorem edited_edits (schema : Schema) (edits : List (Slot × String)) :
    Edited schema edits (edits.foldl Draft.edit (new schema)) :=
  (edited_new schema).append edits

theorem Edited.commonForm_ne (edited : Edited schema edits draft) :
    draft.fields.Pairwise fun field other => commonForm field.1 ≠ commonForm other.1 := by
  have declares : ∀ field ∈ draft.fields, schema.declared? field.1 = some field.1 := by
    intro field mem
    exact ((edited.fields field.1 field.2).mp (lookup_of_mem edited.ordered mem)).1
  apply edited.ordered.imp_of_mem
  intro field other here there before
  exact Schema.commonForm_ne_of_declared? (declares field here) (declares other there) before.ne

/-- However a new draft is edited, its schema stays, and its fields are a map from declared labels,
of which no two have the same common form, to what was written last to that form. A field can be set
if and only if a label of its common form is declared; setting it changes this field alone, and a
field that cannot be set changes nothing. -/
theorem foldl_edit_fields (schema : Schema) (edits : List (Slot × String)) :
    let draft := edits.foldl Draft.edit (new schema)
    draft.schema = schema ∧
    (∀ field ∈ draft.fields, field.1 ∈ schema.fieldLabels ∧
      lastField? (commonForm field.1) edits = some field.2) ∧
    (draft.fields.Pairwise fun field other => commonForm field.1 ≠ commonForm other.1) ∧
    ∀ label value,
      ((draft.setField? label value).isSome ↔ commonForm label ≠ "" ∧
        ∃ declared ∈ schema.fieldLabels, commonForm declared = commonForm label) ∧
      (draft.setField? label value = none → draft.edit (.field label, value) = draft) ∧
      ∀ changed, draft.setField? label value = some changed →
        ∃ declared ∈ schema.fieldLabels, commonForm declared = commonForm label ∧
          changed.fields.lookup declared = some value ∧
          (∀ other, other ≠ declared →
            changed.fields.lookup other = draft.fields.lookup other) ∧
          { changed with fields := draft.fields } = draft := by
  intro draft
  have edited : Edited schema edits draft := edited_edits schema edits
  refine ⟨edited.bound, ?_, edited.commonForm_ne, ?_⟩
  · intro field mem
    rcases (edited.fields field.1 field.2).mp (lookup_of_mem edited.ordered mem) with
      ⟨declares, written⟩
    exact ⟨Schema.mem_of_declared? declares, written⟩
  · intro label value
    refine ⟨?_, ?_, ?_⟩
    · rw [setField?, Option.isSome_map, edited.bound]
      exact Schema.isSome_declared?_iff
    · intro unset
      simp only [Draft.edit, Slot.write?, unset, Option.getD_none]
    · intro changed set
      simpa only [edited.bound] using setField?_cases set

end Draft

end CommandUrl

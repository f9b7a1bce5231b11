import CommandUrl.Proofs.Note.Fields
import CommandUrl.Verb.Add

/-!
# The content of a draft

A draft takes parameters one after the other, and a later one may write over
what an earlier one wrote. What is in it in the end can be said without going
through them in order: each part of the note has the value of the last parameter
that writes this part, and there is a field for every part that the collection
declares. Parts are told apart by what a label stands for, so that two labels
write the same part if they are synonyms or have the same common form.
-/

namespace CommandUrl

open Verb (Slot)

/-- A part of a note, where fields go by the common form of their labels. -/
def Verb.Slot.common : Slot → Slot
  | .field label => .field (commonForm label)
  | slot => slot

theorem Verb.Slot.eq_of_ofLabel_field {label spelled : String}
    (field : Slot.ofLabel label = .field spelled) : spelled = label := by
  unfold Slot.ofLabel at field
  split at field <;> simp_all

namespace Parameter

/-- The part of a note that a parameter is for, where fields go by the common form of their labels.
A parameter that names a collection is for none. -/
def slot? (parameter : Parameter) : Option Slot :=
  if parameter.label ∈ ["shortcut", "path", "special"] then none
  else if parameter.label ∈ ["title", "name"] then some .title
  else if parameter.label ∈ ["body", "note"] then some .body
  else if parameter.label ∈ ["date", "due", "completed"] then some .date
  else some (.field (commonForm parameter.label))

/-- The draft with the parameter written into it, if its collection has the part. -/
def write? (parameter : Parameter) (draft : Draft) : Option Draft :=
  (Slot.ofLabel parameter.label).write? draft parameter.value

theorem slot?_of_locator {parameter : Parameter} (located : parameter.locator?.isSome) :
    parameter.slot? = none := by
  unfold locator? at located
  split at located
  all_goals first
    | next label => simp [slot?, label]
    | cases located

/-- What a label writes is what the parameter is for, but for the spelling of a field. -/
theorem slot?_of_content {parameter : Parameter} (content : parameter.locator? = none) :
    parameter.slot? = some (Slot.ofLabel parameter.label).common := by
  unfold locator? at content
  split at content
  · cases content
  · cases content
  · cases content
  · unfold Slot.ofLabel
    split <;> simp_all [slot?, Slot.common]

/-- Whether a parameter can be written into a draft depends on the schema of the draft alone. -/
theorem write?_isSome_of_schema (parameter : Parameter) {draft other : Draft}
    (same : draft.schema = other.schema) :
    (parameter.write? draft).isSome = (parameter.write? other).isSome := by
  unfold write? Slot.write?
  split
  · rfl
  · rfl
  · rfl
  · simp [Draft.setField?, same]

end Parameter

/-- The value of the last parameter that is for a part of the note. -/
def Verb.Slot.lastValue? (slot : Slot) (parameters : List Parameter) : Option String :=
  (parameters.filter (·.slot? = some slot)).getLast?.map (·.value)

theorem map_getLast?_filter_append {α β : Type} (keep : α → Bool) (read : α → β) (xs : List α)
    (x : α) : ((xs ++ [x]).filter keep).getLast?.map read =
      if keep x then some (read x) else (xs.filter keep).getLast?.map read := by
  rw [List.filter_append]
  by_cases kept : keep x
  · simp [kept]
  · simp [kept]

theorem lastValue?_append (slot : Slot) (parameters : List Parameter) (parameter : Parameter) :
    slot.lastValue? (parameters ++ [parameter]) =
      if parameter.slot? = some slot then some parameter.value else slot.lastValue? parameters := by
  simp only [Slot.lastValue?, map_getLast?_filter_append, decide_eq_true_eq]

namespace Schema

variable {schema : Schema} {label declared : String}

theorem declared?_eq_some :
    schema.declared? label = some declared ↔
      schema.fieldLabels.find? (commonForm · = commonForm label) = some declared ∧
        commonForm label ≠ "" := by
  unfold declared?
  dsimp only
  split
  · next empty => simp_all
  · next nonempty => simp_all

theorem declared?_of_commonForm {other : String} (same : commonForm other = commonForm label) :
    schema.declared? other = schema.declared? label := by
  simp only [declared?, same]

theorem commonForm_of_declared? (found : schema.declared? label = some declared) :
    commonForm declared = commonForm label := by
  rcases declared?_eq_some.mp found with ⟨first, _⟩
  simpa using List.find?_some first

end Schema

namespace Draft

/-- The draft after one more parameter, which is left out if it cannot be written. -/
def take (draft : Draft) (parameter : Parameter) : Draft :=
  if parameter.locator?.isSome then draft else (parameter.write? draft).getD draft

/-- What a draft can become by one more parameter. -/
theorem take_cases (draft : Draft) (parameter : Parameter) :
    (parameter.slot? = none ∧ draft.take parameter = draft) ∨
    (parameter.slot? = some .title ∧ draft.take parameter = draft.setTitle parameter.value) ∨
    (parameter.slot? = some .body ∧ draft.take parameter = draft.setBody parameter.value) ∨
    (parameter.slot? = some .date ∧ draft.take parameter = draft.setDate parameter.value) ∨
    (parameter.slot? = some (.field (commonForm parameter.label)) ∧
      draft.take parameter =
        { draft with
          fields := (draft.schema.declared? parameter.label).elim draft.fields
            (putField · parameter.value draft.fields) }) := by
  cases located : parameter.locator? with
  | some locator =>
      have located : parameter.locator?.isSome := by simp [located]
      exact Or.inl ⟨Parameter.slot?_of_locator located, by simp [take, located]⟩
  | none =>
      have slot := Parameter.slot?_of_content located
      have written : draft.take parameter =
          ((Slot.ofLabel parameter.label).write? draft parameter.value).getD draft := by
        simp [take, located, Parameter.write?]
      cases ofLabel : Slot.ofLabel parameter.label with
      | field label =>
          have same := Slot.eq_of_ofLabel_field ofLabel
          subst same
          rw [ofLabel] at slot written
          simp only [Slot.common] at slot
          refine Or.inr (Or.inr (Or.inr (Or.inr ⟨slot, ?_⟩)))
          rw [written, Slot.write?, setField?]
          cases draft.schema.declared? parameter.label <;> rfl
      | _ =>
          rw [ofLabel] at slot written
          simp_all [Slot.common, Slot.write?]

section Take

variable (draft : Draft) (parameter : Parameter)

theorem schema_take : (draft.take parameter).schema = draft.schema := by
  rcases draft.take_cases parameter with
    ⟨_, taken⟩ | ⟨_, taken⟩ | ⟨_, taken⟩ | ⟨_, taken⟩ | ⟨_, taken⟩ <;> rw [taken] <;> rfl

theorem title_take : (draft.take parameter).title =
    if parameter.slot? = some .title then some parameter.value else draft.title := by
  rcases draft.take_cases parameter with
    ⟨slot, taken⟩ | ⟨slot, taken⟩ | ⟨slot, taken⟩ | ⟨slot, taken⟩ | ⟨slot, taken⟩ <;>
    simp [slot, taken, setTitle, setBody, setDate]

theorem body_take : (draft.take parameter).body =
    if parameter.slot? = some .body then some parameter.value else draft.body := by
  rcases draft.take_cases parameter with
    ⟨slot, taken⟩ | ⟨slot, taken⟩ | ⟨slot, taken⟩ | ⟨slot, taken⟩ | ⟨slot, taken⟩ <;>
    simp [slot, taken, setTitle, setBody, setDate]

theorem date_take : (draft.take parameter).date =
    if parameter.slot? = some .date then some parameter.value else draft.date := by
  rcases draft.take_cases parameter with
    ⟨slot, taken⟩ | ⟨slot, taken⟩ | ⟨slot, taken⟩ | ⟨slot, taken⟩ | ⟨slot, taken⟩ <;>
    simp [slot, taken, setTitle, setBody, setDate]

/-- A parameter that is for no field leaves the fields alone. -/
theorem fields_take :
    (∀ label, parameter.slot? ≠ some (.field label)) ∧
      (draft.take parameter).fields = draft.fields ∨
    parameter.slot? = some (.field (commonForm parameter.label)) ∧
      (draft.take parameter).fields =
        (draft.schema.declared? parameter.label).elim draft.fields
          (putField · parameter.value draft.fields) := by
  rcases draft.take_cases parameter with
    ⟨slot, taken⟩ | ⟨slot, taken⟩ | ⟨slot, taken⟩ | ⟨slot, taken⟩ | ⟨slot, taken⟩ <;>
    simp [slot, taken, setTitle, setBody, setDate]

theorem ordered_take (ordered : Ordered draft.fields) : Ordered (draft.take parameter).fields := by
  rcases draft.fields_take parameter with ⟨_, same⟩ | ⟨_, put⟩
  · rw [same]
    exact ordered
  · rw [put]
    cases draft.schema.declared? parameter.label with
    | none => exact ordered
    | some declared => exact ordered_putField declared parameter.value ordered

end Take

/-- The draft has for content what parameters say that come after the collection: each part has the
value of the last parameter that is for it, and of the fields there are those which are the first
that the schema declares with their common form. -/
structure Composed (schema : Schema) (parameters : List Parameter) (draft : Draft) : Prop where
  bound : draft.schema = schema
  title : draft.title = Slot.title.lastValue? parameters
  body : draft.body = Slot.body.lastValue? parameters
  date : draft.date = Slot.date.lastValue? parameters
  ordered : Ordered draft.fields
  fields : ∀ label value, draft.fields.lookup label = some value ↔
    schema.fieldLabels.find? (commonForm · = commonForm label) = some label ∧
      commonForm label ≠ "" ∧
      (Slot.field (commonForm label)).lastValue? parameters = some value

variable {schema : Schema} {parameters : List Parameter} {draft other : Draft}

/-- What parameters say determines the draft. -/
theorem Composed.unique (left : Composed schema parameters draft)
    (right : Composed schema parameters other) : draft = other := by
  have fields : draft.fields = other.fields := by
    apply eq_of_lookup_eq left.ordered right.ordered
    intro label
    apply Option.ext
    intro value
    exact (left.fields label value).trans (right.fields label value).symm
  cases draft
  cases other
  simp only [mk.injEq]
  exact ⟨left.bound.trans right.bound.symm, left.title.trans right.title.symm,
    left.body.trans right.body.symm, left.date.trans right.date.symm, fields⟩

theorem composed_new (schema : Schema) : Composed schema [] (new schema) where
  bound := rfl
  title := rfl
  body := rfl
  date := rfl
  ordered := .nil
  fields := by simp [new, Slot.lastValue?]

/-- What is under a label once a value was put where a spelling belongs. If there was something
under it only where it is the first that is declared with its common form, so it is now, and it is
the new value if the spelling has that form. -/
theorem lookup_put_declared {fields : List (String × String)} {label value : String}
    {latest : Option String} (spelled new : String)
    (before : fields.lookup label = some value ↔
      schema.declared? label = some label ∧ latest = some value) :
    ((schema.declared? spelled).elim fields (putField · new fields)).lookup label = some value ↔
      schema.declared? label = some label ∧
        (if commonForm spelled = commonForm label then some new else latest) = some value := by
  by_cases same : commonForm spelled = commonForm label
  · have found : schema.declared? spelled = schema.declared? label :=
      Schema.declared?_of_commonForm same
    simp only [same, if_true, found]
    by_cases first : schema.declared? label = some label
    · simp [first, lookup_putField_self]
    · -- the label is not the one that the schema declares first, so there is nothing under it
      have absent : fields.lookup label ≠ some value := fun there => first (before.mp there).1
      simp only [first, false_and, iff_false]
      cases declares : schema.declared? label with
      | none => exact absent
      | some declared =>
          have differ : label ≠ declared := by
            rintro rfl
            exact first declares
          simpa [lookup_putField_of_ne differ] using absent
  · rw [if_neg same, ← before]
    cases declares : schema.declared? spelled with
    | none => rw [Option.elim_none]
    | some declared =>
        have other : label ≠ declared := by
          rintro rfl
          exact same (Schema.commonForm_of_declared? declares).symm
        rw [Option.elim_some, lookup_putField_of_ne other]

/-- The fields of a draft after one more parameter that is for a field. -/
theorem Composed.lookup_take (composed : Composed schema parameters draft) {parameter : Parameter}
    (slot : parameter.slot? = some (.field (commonForm parameter.label))) (label value : String) :
    ((schema.declared? parameter.label).elim draft.fields
        (putField · parameter.value draft.fields)).lookup label = some value ↔
      schema.declared? label = some label ∧
        (Slot.field (commonForm label)).lastValue? (parameters ++ [parameter]) = some value := by
  have before : draft.fields.lookup label = some value ↔ schema.declared? label = some label ∧
      (Slot.field (commonForm label)).lastValue? parameters = some value := by
    rw [composed.fields, Schema.declared?_eq_some, and_assoc]
  rw [lastValue?_append, slot]
  simp only [Option.some.injEq, Slot.field.injEq]
  exact lookup_put_declared parameter.label parameter.value before

/-- A draft that takes one more parameter has the content of one more parameter. -/
theorem Composed.take (composed : Composed schema parameters draft) (parameter : Parameter) :
    Composed schema (parameters ++ [parameter]) (draft.take parameter) where
  bound := (draft.schema_take parameter).trans composed.bound
  title := by rw [title_take, lastValue?_append, composed.title]
  body := by rw [body_take, lastValue?_append, composed.body]
  date := by rw [date_take, lastValue?_append, composed.date]
  ordered := draft.ordered_take parameter composed.ordered
  fields := by
    intro label value
    rcases draft.fields_take parameter with ⟨elsewhere, same⟩ | ⟨slot, put⟩
    · rw [same, lastValue?_append, if_neg (elsewhere _)]
      exact composed.fields label value
    · rw [put, composed.bound, composed.lookup_take slot, Schema.declared?_eq_some, and_assoc]

theorem Composed.takes (composed : Composed schema parameters draft) (more : List Parameter) :
    Composed schema (parameters ++ more) (more.foldl Draft.take draft) := by
  induction more generalizing parameters draft with
  | nil => simpa using composed
  | cons parameter more ih => simpa using ih (composed.take parameter)

/-- A new draft that takes parameters in order has the content of them all. -/
theorem composed_takes (schema : Schema) (parameters : List Parameter) :
    Composed schema parameters (parameters.foldl take (new schema)) :=
  (composed_new schema).takes parameters

end Draft

section Order

variable {draft left right : Draft} {earlier later : String}

theorem setField?_comm (differ : commonForm earlier ≠ commonForm later)
    (ordered : Draft.Ordered draft.fields) {first second : String}
    (wroteLeft : draft.setField? earlier first = some left)
    (wroteRight : draft.setField? later second = some right) :
    left.setField? later second = right.setField? earlier first := by
  simp only [Draft.setField?, Option.map_eq_some_iff] at wroteLeft wroteRight
  rcases wroteLeft with ⟨one, foundOne, rfl⟩
  rcases wroteRight with ⟨other, foundOther, rfl⟩
  have apart : other ≠ one := by
    rintro rfl
    exact differ ((Schema.commonForm_of_declared? foundOne).symm.trans
      (Schema.commonForm_of_declared? foundOther))
  simp [Draft.setField?, foundOne, foundOther,
    Draft.putField_comm ordered apart.symm]

theorem write?_setField?_comm {slot : Slot} (plain : ∀ label, slot ≠ .field label)
    {first second : String} (wroteLeft : slot.write? draft first = some left)
    (wroteRight : draft.setField? later second = some right) :
    left.setField? later second = slot.write? right first := by
  simp only [Draft.setField?, Option.map_eq_some_iff] at wroteRight
  rcases wroteRight with ⟨declared, found, rfl⟩
  cases slot with
  | title | body | date =>
      cases wroteLeft
      exact congrArg (Option.map _) found
  | field label => exact absurd rfl (plain label)

/-- Different parts can be written in either order. -/
theorem Verb.Slot.write?_comm {one other : Slot} (differ : one.common ≠ other.common)
    (ordered : Draft.Ordered draft.fields) {first second : String}
    (wroteLeft : one.write? draft first = some left)
    (wroteRight : other.write? draft second = some right) :
    other.write? left second = one.write? right first := by
  cases one with
  | field label =>
      cases other with
      | field another =>
          have apart : commonForm label ≠ commonForm another := by simpa [Slot.common] using differ
          exact setField?_comm apart ordered wroteLeft wroteRight
      | _ => exact (write?_setField?_comm (by simp) wroteRight wroteLeft).symm
  | _ =>
      cases other with
      | field another => exact write?_setField?_comm (by simp) wroteLeft wroteRight
      | _ =>
          cases wroteLeft
          cases wroteRight
          first
            | rfl
            | exact absurd rfl differ

theorem Parameter.write?_comm {one other : Parameter} (oneContent : one.locator? = none)
    (otherContent : other.locator? = none) (differ : one.slot? ≠ other.slot?)
    (ordered : Draft.Ordered draft.fields) (wroteOne : one.write? draft = some left)
    (wroteOther : other.write? draft = some right) : other.write? left = one.write? right := by
  rw [slot?_of_content oneContent, slot?_of_content otherContent] at differ
  apply Slot.write?_comm ?_ ordered wroteOne wroteOther
  intro same
  exact differ (congrArg some same)

end Order

end CommandUrl

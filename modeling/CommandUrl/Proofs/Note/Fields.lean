import CommandUrl.Note.Draft
import Mathlib.Data.String.Basic

/-!
# The fields of a draft

The fields of a draft are a map from labels to values, kept as a list in the
order of the labels. Every map has one such list, so what is under each label
says what the list is, and values that are put under different labels may be put
in either order.
-/

namespace CommandUrl.Draft

/-- The fields are in the order of their labels, and no two have the same label. -/
def Ordered (fields : List (String × String)) : Prop :=
  fields.Pairwise fun field later => field.1 < later.1

variable {label other value : String} {fields left right : List (String × String)}

theorem lookup_putField_self (label value : String) (fields : List (String × String)) :
    (putField label value fields).lookup label = some value := by
  induction fields with
  | nil => simp [putField]
  | cons field fields ih =>
      rcases field with ⟨first, old⟩
      rw [putField]
      split
      · simp
      · split
        · simp
        · next different =>
            have differ : (label == first) = false := by simpa using different
            rw [List.lookup_cons, differ]
            exact ih

theorem lookup_putField_of_ne (differ : other ≠ label) (value : String)
    (fields : List (String × String)) :
    (putField label value fields).lookup other = fields.lookup other := by
  have unequal : (other == label) = false := by simpa using differ
  induction fields with
  | nil => simp [putField, List.lookup_cons, unequal]
  | cons field fields ih =>
      rcases field with ⟨first, old⟩
      rw [putField]
      split
      · rw [List.lookup_cons, unequal]
      · split
        · next same =>
            subst same
            rw [List.lookup_cons, List.lookup_cons, unequal]
        · rw [List.lookup_cons, List.lookup_cons, ih]

theorem mem_putField {field : String × String} (mem : field ∈ putField label value fields) :
    field = (label, value) ∨ field ∈ fields := by
  induction fields with
  | nil => simpa [putField] using mem
  | cons first fields ih =>
      rcases first with ⟨first, old⟩
      rw [putField] at mem
      split at mem
      · simpa using mem
      · split at mem
        · rcases List.mem_cons.mp mem with new | kept
          · exact Or.inl new
          · exact Or.inr (List.mem_cons_of_mem _ kept)
        · rcases List.mem_cons.mp mem with kept | later
          · exact Or.inr (kept ▸ List.mem_cons_self)
          · rcases ih later with new | kept
            · exact Or.inl new
            · exact Or.inr (List.mem_cons_of_mem _ kept)

theorem ordered_putField (label value : String) (ordered : Ordered fields) :
    Ordered (putField label value fields) := by
  induction fields with
  | nil => simp [putField, Ordered]
  | cons first fields ih =>
      rcases first with ⟨first, old⟩
      rcases List.pairwise_cons.mp ordered with ⟨least, rest⟩
      rw [putField]
      split
      · next before =>
          apply List.Pairwise.cons
          · intro field mem
            rcases List.mem_cons.mp mem with rfl | later
            · exact before
            · exact lt_trans before (least field later)
          · exact ordered
      · next notBefore =>
          split
          · next same =>
              subst same
              exact .cons least rest
          · next different =>
              apply List.Pairwise.cons
              · intro field mem
                rcases mem_putField mem with rfl | kept
                · exact lt_of_le_of_ne (not_lt.mp notBefore) (Ne.symm different)
                · exact least field kept
              · exact ih rest

theorem lookup_of_least (least : ∀ field ∈ fields, label < field.1) :
    fields.lookup label = none := by
  rw [List.lookup_eq_none_iff]
  intro field mem
  simpa using ne_of_lt (least field mem)

theorem lookup_of_mem (ordered : Ordered fields) (mem : (label, value) ∈ fields) :
    fields.lookup label = some value := by
  rcases List.append_of_mem mem with ⟨before, after, rfl⟩
  rw [List.lookup_eq_some_iff]
  refine ⟨before, after, rfl, ?_⟩
  intro field early
  have earlier : field.1 < label :=
    (List.pairwise_append.mp ordered).2.2 field early (label, value) List.mem_cons_self
  simpa using earlier.ne'

/-- Fields that are in order are told by what is under each label. -/
theorem eq_of_lookup_eq (leftOrdered : Ordered left) (rightOrdered : Ordered right)
    (same : ∀ label, left.lookup label = right.lookup label) : left = right := by
  induction left generalizing right with
  | nil =>
      cases right with
      | nil => rfl
      | cons second right =>
          rcases second with ⟨other, old⟩
          simpa using same other
  | cons first left ih =>
      rcases first with ⟨label, value⟩
      cases right with
      | nil => simpa using same label
      | cons second right =>
          rcases second with ⟨other, old⟩
          rcases List.pairwise_cons.mp leftOrdered with ⟨leftLeast, leftRest⟩
          rcases List.pairwise_cons.mp rightOrdered with ⟨rightLeast, rightRest⟩
          -- the first label of one list is under no later label of the other, so it is first there
          have atLabel := same label
          have atOther := same other
          rcases lt_trichotomy label other with before | rfl | after
          · have absent : ((other, old) :: right).lookup label = none :=
              lookup_of_least fun field mem => (List.mem_cons.mp mem).elim (· ▸ before)
                fun later => lt_trans before (rightLeast field later)
            simp [absent] at atLabel
          · have sameValue : value = old := by simpa using atLabel
            subst sameValue
            refine congrArg _ (ih leftRest rightRest ?_)
            intro key
            by_cases here : key = label
            · subst here
              rw [lookup_of_least leftLeast, lookup_of_least rightLeast]
            · have elsewhere : (key == label) = false := by simpa using here
              simpa [List.lookup_cons, elsewhere] using same key
          · have absent : ((label, value) :: left).lookup other = none :=
              lookup_of_least fun field mem => (List.mem_cons.mp mem).elim (· ▸ after)
                fun later => lt_trans after (leftLeast field later)
            simp [absent] at atOther

theorem putField_comm (ordered : Ordered fields) (differ : other ≠ label) (value old : String) :
    putField label value (putField other old fields) =
      putField other old (putField label value fields) := by
  apply eq_of_lookup_eq
  · exact ordered_putField label value (ordered_putField other old ordered)
  · exact ordered_putField other old (ordered_putField label value ordered)
  · intro key
    by_cases atLabel : key = label
    · subst atLabel
      rw [lookup_putField_self, lookup_putField_of_ne differ.symm, lookup_putField_self]
    · by_cases atOther : key = other
      · subst atOther
        rw [lookup_putField_of_ne atLabel, lookup_putField_self, lookup_putField_self]
      · rw [lookup_putField_of_ne atLabel, lookup_putField_of_ne atOther,
          lookup_putField_of_ne atOther, lookup_putField_of_ne atLabel]

end CommandUrl.Draft

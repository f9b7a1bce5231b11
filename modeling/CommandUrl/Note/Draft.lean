import CommandUrl.Note.Basic
import CommandUrl.Text.CommonForm

/-!
# Drafts

A draft is a note that has not been added to its collection yet. It is bound to
the schema of the collection, and its fields are kept under the labels as the
schema spells them, in the order of these labels and not in the order in which
they were written. A label is matched by its common form, and of several labels
of one form the first is meant, so no two fields of a draft have the same
common form.
-/

namespace CommandUrl

/-- A note to be added to a collection. -/
structure Draft where
  schema : Schema
  title : Option String
  body : Option String
  date : Option String
  /-- The values of the fields, each under its declared label, in the order of the labels. -/
  fields : List (String × String)
  deriving Repr, DecidableEq

/-- The label that a schema declares for a spelling, by its common form. A spelling without letters
and numbers names no field. -/
def Schema.declared? (schema : Schema) (label : String) : Option String :=
  let wanted := commonForm label
  if wanted.isEmpty then none else schema.fieldLabels.find? fun declared => commonForm declared = wanted

namespace Draft

/-- A draft without any content. -/
def new (schema : Schema) : Draft :=
  { schema, title := none, body := none, date := none, fields := [] }

/-- The draft with a title. -/
def setTitle (draft : Draft) (value : String) : Draft :=
  { draft with title := some value }

/-- The draft with a body. -/
def setBody (draft : Draft) (value : String) : Draft :=
  { draft with body := some value }

/-- The draft with a date. -/
def setDate (draft : Draft) (value : String) : Draft :=
  { draft with date := some value }

/-- Puts a value under a label, in place of one that is there or else where the label belongs. -/
def putField (label value : String) : List (String × String) → List (String × String)
  | [] => [(label, value)]
  | (other, old) :: fields =>
    if label < other then (label, value) :: (other, old) :: fields
    else if label = other then (label, value) :: fields
    else (other, old) :: putField label value fields

/-- The draft with a field set, if the schema declares its label. -/
def setField? (draft : Draft) (label value : String) : Option Draft :=
  (draft.schema.declared? label).map fun declared =>
    { draft with fields := putField declared value draft.fields }

end Draft

end CommandUrl

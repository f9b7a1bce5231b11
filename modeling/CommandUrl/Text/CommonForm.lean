import CommandUrl.Text.LetterNumber
import CommandUrl.Text.Lowercase

/-!
# The common form

Names are matched by their common form: everything in lower case, and nothing
but letters and numbers kept. The text is lowered first and stripped second, so
a mark that lowering brings in is stripped again.
-/

namespace CommandUrl.Text

/-- The lower-case letters and numbers of a text. -/
def commonForm (text : List Char) : List Char :=
  (lower text).filter isLetterOrNumber

end CommandUrl.Text

namespace CommandUrl

/-- The form by which labels, titles and note identifiers are compared. -/
def commonForm (text : String) : String :=
  String.ofList (Text.commonForm text.toList)

end CommandUrl

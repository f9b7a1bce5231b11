import CommandUrl.Text.Digits
import CommandUrl.Text.Ranges
import CommandUrl.Text.Split

/-!
# Tables of characters

The properties of characters that matter to domains are long tables. They are
written as lines of text: hexadecimal numbers with blanks between them make a
row, and semicolons separate the rows of a line.
-/

namespace CommandUrl.Address.Idna

/-- The rows of a table. -/
def table (lines : List String) : List (List Nat) :=
  lines.flatMap fun line =>
    (Text.split ';' line.toList).map fun row => (Text.split ' ' row).map (Text.numberOf 16)

/-- The rows of a table of intervals. -/
def rangeTable (lines : List String) : Text.Ranges :=
  (table lines).filterMap fun
    | [first, last] => some (first, last)
    | _ => none

end CommandUrl.Address.Idna

import CommandUrl.Text.Digits
import CommandUrl.Text.Printable

/-!
# Quoted text

Text that a message quotes stands in double quotes. Quotes and backslashes get a
backslash, the commonest controls their letters, and any other character that
could not be seen the hexadecimal digits of its code in braces.
-/

namespace CommandUrl.Text

/-- The form of one character in quoted text. -/
def quotedChar (c : Char) : List Char :=
  if c = '\x22' then ['\\', '\x22']
  else if c = '\\' then ['\\', '\\']
  else if c = '\x00' then ['\\', '0']
  else if c = '\t' then ['\\', 't']
  else if c = '\n' then ['\\', 'n']
  else if c = '\r' then ['\\', 'r']
  else if isPrintable c then [c]
  else ['\\', 'u', '\x7b'] ++ hexadecimal c.toNat ++ ['\x7d']

/-- A text in quotes. -/
def quoted (text : List Char) : List Char :=
  '\x22' :: text.flatMap quotedChar ++ ['\x22']

end CommandUrl.Text

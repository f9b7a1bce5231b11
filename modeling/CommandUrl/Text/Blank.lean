/-!
# White space

The white space of Unicode, which is wider than the white space of ASCII: it
takes in the next-line control, the no-break space and the various widths of
typographic space, and leaves out the zero-width space, the byte order mark and
the separators among the ASCII control characters.
-/

namespace CommandUrl.Text

/-- White space in the sense of Unicode. -/
def isBlankChar (c : Char) : Bool :=
  let code := c.toNat
  (0x09 ≤ code && code ≤ 0x0D) || code = 0x20 || code = 0x85 || code = 0xA0 || code = 0x1680 ||
    (0x2000 ≤ code && code ≤ 0x200A) || code = 0x2028 || code = 0x2029 || code = 0x202F ||
    code = 0x205F || code = 0x3000

/-- Nothing but white space. -/
def isBlank (text : List Char) : Bool :=
  text.all isBlankChar

end CommandUrl.Text

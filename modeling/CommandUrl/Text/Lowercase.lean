import CommandUrl.Text.Case

/-!
# Lower case

Lowering a text replaces each character by its lower-case form, with two
exceptions. The capital I with a dot becomes two characters, the small letter
and a combining dot. The capital sigma becomes the final form of the small
letter where it ends a word of at least two letters, which depends on the
nearest characters before and after it that are not looked through.
-/

namespace CommandUrl.Text

/-- The lower-case form of a character outside every context. -/
def lowerChar (c : Char) : List Char :=
  if c = '\u0130' then ['i', '\u0307'] else [Char.ofNat (lowerCode c.toNat)]

/-- Past the characters that are looked through comes one that has case. -/
def meetsCased (text : List Char) : Bool :=
  (text.dropWhile isCaseIgnorable).head?.any isCased

/-- The capital sigma. -/
def capitalSigma : Char := '\u03A3'

/-- Lowers a text of which the characters in `before` have already been passed, the nearest of
them first. -/
def lowerAfter (before : List Char) : List Char → List Char
  | [] => []
  | c :: rest =>
    let lowered :=
      if c = capitalSigma then
        [if meetsCased before && !meetsCased rest then '\u03C2' else '\u03C3']
      else
        lowerChar c
    lowered ++ lowerAfter (c :: before) rest

/-- The lower-case form of a text. -/
def lower (text : List Char) : List Char :=
  lowerAfter [] text

end CommandUrl.Text

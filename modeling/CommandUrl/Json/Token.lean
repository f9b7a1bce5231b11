import CommandUrl.Json.Value

/-!
# Tokens of JSON

A JSON text is a run of tokens: punctuation, and scalars that are read whole.
The characters are taken one at a time. A state says what is being read, and
each character yields the tokens that it completes and the next state, so that
the run of tokens is one pass over the text.
-/

namespace CommandUrl.Json

/-- A token: a scalar, or a sign of punctuation. -/
inductive Token where
  | scalar (value : Json)
  | arrayStart
  | arrayEnd
  | objectStart
  | objectEnd
  | comma
  | colon
  deriving Repr

/-- White space between tokens. -/
def isSpace (c : Char) : Bool :=
  c = ' ' || c = '\n' || c = '\t' || c = '\r'

/-- A character of a literal word. -/
def isWordChar (c : Char) : Bool :=
  'a' ≤ c && c ≤ 'z'

/-- A character of a number. -/
def isNumberChar (c : Char) : Bool :=
  Text.isDigit c || c = '-' || c = '+' || c = '.' || c = 'e' || c = 'E'

/-- The sign of punctuation that a character is. -/
def punctuation? (c : Char) : Option Token :=
  match c with
  | '[' => some .arrayStart
  | ']' => some .arrayEnd
  | '\x7b' => some .objectStart
  | '\x7d' => some .objectEnd
  | ',' => some .comma
  | ':' => some .colon
  | _ => none

/-- The value of a literal word. -/
def word? (word : List Char) : Option Json :=
  match word with
  | ['n', 'u', 'l', 'l'] => some .null
  | ['t', 'r', 'u', 'e'] => some (.bool true)
  | ['f', 'a', 'l', 's', 'e'] => some (.bool false)
  | _ => none

/-- The character that a letter after a backslash stands for. -/
def escaped? (c : Char) : Option Char :=
  match c with
  | '\x22' => some '\x22'
  | '\\' => some '\\'
  | '/' => some '/'
  | 'b' => some '\x08'
  | 'f' => some '\x0c'
  | 'n' => some '\n'
  | 'r' => some '\r'
  | 't' => some '\t'
  | _ => none

/-- The first half of a surrogate pair. -/
def isHighSurrogate (code : Nat) : Bool :=
  0xD800 ≤ code && code < 0xDC00

/-- The second half of a surrogate pair. -/
def isLowSurrogate (code : Nat) : Bool :=
  0xDC00 ≤ code && code < 0xE000

/-- The text of a run of codes, in which surrogates have to stand in pairs. -/
def textOfCodes? : List Nat → Option (List Char)
  | [] => some []
  | high :: low :: codes =>
    if isHighSurrogate high && isLowSurrogate low then
      (textOfCodes? codes).map
        (Char.ofNat (0x10000 + (high - 0xD800) * 0x400 + (low - 0xDC00)) :: ·)
    else if isHighSurrogate high || isLowSurrogate high then
      none
    else
      (textOfCodes? (low :: codes)).map (Char.ofNat high :: ·)
  | [code] =>
    if isHighSurrogate code || isLowSurrogate code then none else some [Char.ofNat code]

/-- What is being read. What has been read of it is kept with the last first. -/
inductive Scan where
  | between
  | word (read : List Char)
  | number (read : List Char)
  | string (codes : List Nat)
  /-- A string, after a backslash. -/
  | escape (codes : List Nat)
  /-- A string, inside the digits of an escape that gives a code. -/
  | code (codes : List Nat) (missing : Nat) (value : Nat)
  deriving Repr, DecidableEq

/-- Starts a token, or passes over white space. -/
def Scan.start (c : Char) : Option (List Token × Scan) :=
  if isSpace c then some ([], .between)
  else if c = '\x22' then some ([], .string [])
  else if Text.isDigit c || c = '-' then some ([], .number [c])
  else if isWordChar c then some ([], .word [c])
  else (punctuation? c).map fun token => ([token], .between)

/-- The token that a state amounts to at the end of it. -/
def Scan.token? : Scan → Option (List Token)
  | .between => some []
  | .word read => (word? read.reverse).map fun value => [.scalar value]
  | .number read => (Number.parse? read.reverse).map fun value => [.scalar (.number value)]
  | .string _ | .escape _ | .code .. => none

/-- Ends a word or a number and starts anew. -/
def Scan.restart (scan : Scan) (c : Char) : Option (List Token × Scan) := do
  let ended ← scan.token?
  let (tokens, next) ← Scan.start c
  some (ended ++ tokens, next)

/-- Reads one character. -/
def Scan.next (scan : Scan) (c : Char) : Option (List Token × Scan) :=
  match scan with
  | .between => Scan.start c
  | .word read => if isWordChar c then some ([], .word (c :: read)) else scan.restart c
  | .number read => if isNumberChar c then some ([], .number (c :: read)) else scan.restart c
  | .string codes =>
    if c = '\x22' then
      some ([.scalar (.string ((textOfCodes? codes.reverse).map String.ofList))], .between)
    else if c = '\\' then some ([], .escape codes)
    else if c.toNat < 0x20 then none
    else some ([], .string (c.toNat :: codes))
  | .escape codes =>
    if c = 'u' then some ([], .code codes 4 0)
    else (escaped? c).map fun c => ([], .string (c.toNat :: codes))
  | .code codes missing value =>
    (Percent.hexValue? c).map fun digit =>
      let value := value * 16 + digit
      if missing ≤ 1 then ([], .string (value :: codes)) else ([], .code codes (missing - 1) value)

/-- The tokens of the rest of a text. -/
def tokensFrom? (scan : Scan) : List Char → Option (List Token)
  | [] => scan.token?
  | c :: rest => do
    let (tokens, next) ← scan.next c
    let more ← tokensFrom? next rest
    some (tokens ++ more)

/-- The tokens of a text. -/
def tokens? (text : List Char) : Option (List Token) :=
  tokensFrom? .between text

end CommandUrl.Json

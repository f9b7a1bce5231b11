import CommandUrl.Json.Printer
import CommandUrl.Json.Token
import CommandUrl.Proofs.Text.Utf8
import Mathlib.Data.List.Forall2
import Mathlib.Data.List.TakeWhile
import Mathlib.Data.Option.Basic
import Mathlib.Tactic.SplitIfs

/-!
# How tokens are spelled

A token may be spelled in more than one way, and white space between tokens does
not count. The relation `Spells` says of a text that it comes to certain tokens
wherever it stands, as long as the character after it does not go on a word or a
number. Texts are put together from the front: white space adds nothing, a sign
of punctuation adds its token, and so does a string literal, since these end by
themselves; what may be gone on is put before a text that closes it.
-/

namespace CommandUrl.Json

/-- The text does not go on a word or a number that stands before it. -/
def Closes (text : List Char) : Prop :=
  ∀ c, text.head? = some c → isWordChar c = false ∧ isNumberChar c = false

/-- The text comes to the tokens, whatever comes after it and closes it. -/
def Spells (tokens : List Token) (text : List Char) : Prop :=
  ∀ rest, Closes rest →
    tokensFrom? .between (text ++ rest) = (tokensFrom? .between rest).map (tokens ++ ·)

section Classes

variable {c : Char}

theorem isNumberChar_of_isDigit (digit : Text.isDigit c) : isNumberChar c := by
  simp [isNumberChar, digit]

theorem isWordChar_of_mem_word {word : List Char} {value : Json} (known : word? word = some value)
    (mem : c ∈ word) : isWordChar c := by
  unfold word? at known
  split at known
  · exact List.all_eq_true.mp (by decide) c mem
  · exact List.all_eq_true.mp (by decide) c mem
  · exact List.all_eq_true.mp (by decide) c mem
  · cases known

theorem start_of_isWordChar (inside : isWordChar c) : Scan.start c = some ([], .word [c]) := by
  have least : 0x61 ≤ c.toNat := by
    simp only [isWordChar, Bool.and_eq_true, decide_eq_true_eq] at inside
    exact inside.1
  have outside (other : Char) (low : other.toNat < 0x61) : c ≠ other := by
    rintro rfl
    omega
  have noDigit : Text.isDigit c = false := by
    simp only [Text.isDigit, Bool.and_eq_false_iff, decide_eq_false_iff_not]
    right
    intro most
    have most : c.toNat ≤ 0x39 := most
    omega
  simp [Scan.start, isSpace, outside, noDigit, inside]

theorem start_of_number (begins : Text.isDigit c ∨ c = '-') :
    Scan.start c = some ([], .number [c]) := by
  rcases begins with digit | rfl
  · have least : 0x30 ≤ c.toNat := by
      simp only [Text.isDigit, Bool.and_eq_true, decide_eq_true_eq] at digit
      exact digit.1
    have outside (other : Char) (low : other.toNat < 0x30) : c ≠ other := by
      rintro rfl
      omega
    simp [Scan.start, isSpace, outside, digit]
  · rfl

end Classes

section Numbers

variable {text : List Char}

theorem isNumberChar_of_isDigits (digits : Number.isDigits text) :
    ∀ c ∈ text, isNumberChar c := by
  simp only [Number.isDigits, Bool.and_eq_true, List.all_eq_true] at digits
  exact fun c mem => isNumberChar_of_isDigit (digits.2 c mem)

theorem isNumberChar_of_exponent? {exponent : Exponent}
    (read : Number.exponent? text = some exponent) : ∀ c ∈ text, isNumberChar c := by
  unfold Number.exponent? at read
  split at read
  all_goals
    split at read
    · next digits =>
        have inside := isNumberChar_of_isDigits digits
        simpa [isNumberChar] using inside
    · cases read

theorem isNumberChar_of_tail {found : Option Exponent}
    (read : (match text with
      | [] => some none
      | letter :: rest =>
        if letter = 'e' || letter = 'E' then (Number.exponent? rest).map some else none) =
          some found) : ∀ c ∈ text, isNumberChar c := by
  split at read
  · simp
  · next letter rest =>
      split at read
      · next marked =>
          rcases Option.map_eq_some_iff.mp read with ⟨exponent, digits, _⟩
          have inside : isNumberChar letter := by
            simp only [Bool.or_eq_true, decide_eq_true_eq] at marked
            rcases marked with rfl | rfl <;> rfl
          intro c mem
          rcases List.mem_cons.mp mem with rfl | inRest
          · exact inside
          · exact isNumberChar_of_exponent? digits c inRest
      · cases read

/-- A text is made of number characters if what follows its first digits is. -/
theorem isNumberChar_of_dropWhile
    (rest : ∀ c ∈ text.dropWhile Text.isDigit, isNumberChar c) : ∀ c ∈ text, isNumberChar c := by
  intro c mem
  rw [← List.takeWhile_append_dropWhile (p := Text.isDigit) (l := text)] at mem
  rcases List.mem_append.mp mem with digit | other
  · exact isNumberChar_of_isDigit (List.mem_takeWhile_imp digit)
  · exact rest c other

theorem isNumberChar_of_parts? {parts : Option (List Char) × Option Exponent}
    (read : Number.parts? text = some parts) : ∀ c ∈ text, isNumberChar c := by
  unfold Number.parts? at read
  dsimp only at read
  split at read
  · next rest =>
      split at read
      · cases read
      · rcases Option.map_eq_some_iff.mp read with ⟨exponent, tail, _⟩
        intro c mem
        rcases List.mem_cons.mp mem with rfl | inRest
        · rfl
        · exact isNumberChar_of_dropWhile (isNumberChar_of_tail tail) c inRest
  · rcases Option.map_eq_some_iff.mp read with ⟨exponent, tail, _⟩
    exact isNumberChar_of_tail tail

theorem isNumberChar_of_unsigned {parts : Option (List Char) × Option Exponent}
    (begins : (text.takeWhile Text.isDigit).isEmpty = false)
    (read : Number.parts? (text.dropWhile Text.isDigit) = some parts) :
    (∀ c ∈ text, isNumberChar c) ∧ ∃ first rest, text = first :: rest ∧ Text.isDigit first := by
  refine ⟨isNumberChar_of_dropWhile (isNumberChar_of_parts? read), ?_⟩
  cases text with
  | nil => cases begins
  | cons first rest =>
      refine ⟨first, rest, rfl, ?_⟩
      by_contra other
      simp [other] at begins

/-- What is read as a number consists of characters of numbers, and starts like one. -/
theorem isNumberChar_of_parse? {number : Number} (read : Number.parse? text = some number) :
    (∀ c ∈ text, isNumberChar c) ∧
      ∃ first rest, text = first :: rest ∧ (Text.isDigit first ∨ first = '-') := by
  unfold Number.parse? at read
  simp only [Option.bind_eq_bind] at read
  split at read
  · next rest =>
      simp only [Option.bind_eq_some_iff, Option.guard_eq_some', Bool.and_eq_true,
        Bool.not_eq_true'] at read
      rcases read with ⟨_, ⟨digits, _⟩, parts, found, _⟩
      rcases isNumberChar_of_unsigned digits found with ⟨inside, _⟩
      refine ⟨?_, '-', rest, rfl, Or.inr rfl⟩
      intro c mem
      rcases List.mem_cons.mp mem with rfl | inRest
      · rfl
      · exact inside c inRest
  · simp only [Option.bind_eq_some_iff, Option.guard_eq_some', Bool.and_eq_true,
      Bool.not_eq_true'] at read
    rcases read with ⟨_, ⟨digits, _⟩, parts, found, _⟩
    rcases isNumberChar_of_unsigned digits found with ⟨inside, first, rest, written, digit⟩
    exact ⟨inside, first, rest, written, Or.inl digit⟩

end Numbers

section Scan

variable {scan next : Scan} {c : Char} {rest : List Char}

theorem tokensFrom?_silent (step : scan.next c = some ([], next)) :
    tokensFrom? scan (c :: rest) = tokensFrom? next rest := by
  simp [tokensFrom?, step]

theorem tokensFrom?_yield {token : Token} (step : scan.next c = some ([token], next)) :
    tokensFrom? scan (c :: rest) = (tokensFrom? next rest).map (token :: ·) := by
  cases more : tokensFrom? next rest <;> simp [tokensFrom?, step, more]

/-- Where a state ends at a character that is none of its own, its token is complete. -/
theorem tokensFrom?_ended {token : Token} (amounts : scan.token? = some [token])
    (ended : ∀ c, rest.head? = some c → scan.next c = scan.restart c) :
    tokensFrom? scan rest = (tokensFrom? .between rest).map (token :: ·) := by
  cases rest with
  | nil =>
      rw [tokensFrom?, amounts]
      rfl
  | cons c rest =>
      have step : scan.next c = scan.restart c := ended c rfl
      rw [tokensFrom?, tokensFrom?, step, Scan.restart, amounts]
      have between : Scan.next .between c = Scan.start c := rfl
      rw [between]
      rcases Scan.start c with _ | ⟨tokens, next⟩
      · rfl
      · cases more : tokensFrom? next rest <;> simp [more]

/-- A state that gathers characters of its own gathers all of a run of them. -/
theorem tokensFrom?_gather {state : List Char → Scan} {own : Char → Bool}
    (step : ∀ read c, own c → (state read).next c = some ([], state (c :: read)))
    {chars : List Char} (all : ∀ c ∈ chars, own c) (read rest : List Char) :
    tokensFrom? (state read) (chars ++ rest) =
      tokensFrom? (state (chars.reverse ++ read)) rest := by
  induction chars generalizing read with
  | nil => rfl
  | cons c chars ih =>
      have gathered := ih (fun other mem => all other (List.mem_cons_of_mem c mem)) (c :: read)
      rw [List.cons_append, tokensFrom?_silent (step read c (all c List.mem_cons_self)), gathered]
      simp

end Scan

section Strings

variable {codes : List Nat} {rest : List Char}

theorem hexValue?_digitChar {value : Nat} (digit : value < 16) :
    Percent.hexValue? (Nat.digitChar value) = some value := by
  have all : ∀ value : Fin 16, Percent.hexValue? (Nat.digitChar value.val) = some value.val := by
    decide
  exact all ⟨value, digit⟩

/-- A piece of a string literal, and the code that it stands for: a character that stands for
itself, a letter after a backslash, or four hexadecimal digits. -/
inductive Piece : Nat → List Char → Prop where
  | plain {c : Char} (notQuote : c ≠ '\x22') (notBackslash : c ≠ '\\') (high : 0x20 ≤ c.toNat) :
      Piece c.toNat [c]
  | letter {letter c : Char} (meant : escaped? letter = some c) : Piece c.toNat ['\\', letter]
  | digits {first second third fourth : Char} {one two three four : Nat}
      (readFirst : Percent.hexValue? first = some one)
      (readSecond : Percent.hexValue? second = some two)
      (readThird : Percent.hexValue? third = some three)
      (readFourth : Percent.hexValue? fourth = some four) :
      Piece (((one * 16 + two) * 16 + three) * 16 + four)
        ['\\', 'u', first, second, third, fourth]

/-- A string literal is written piece by piece between quotes. It has a text if the codes of the
pieces have one. -/
def Literal (literal : Option String) (written : List Char) : Prop :=
  ∃ codes pieces, List.Forall₂ Piece codes pieces ∧
    literal = (textOfCodes? codes).map String.ofList ∧
    written = '\x22' :: pieces.flatten ++ ['\x22']

theorem next_digit {missing value digit : Nat} {letter : Char}
    (read : Percent.hexValue? letter = some digit) :
    Scan.next (.code codes (missing + 2) value) letter =
      some ([], .code codes (missing + 1) (value * 16 + digit)) := by
  simp [Scan.next, read]

theorem next_lastDigit {value digit : Nat} {letter : Char}
    (read : Percent.hexValue? letter = some digit) :
    Scan.next (.code codes 1 value) letter =
      some ([], .string ((value * 16 + digit) :: codes)) := by
  simp [Scan.next, read]

/-- However a character of a string is written, it is read as its code. -/
theorem tokensFrom?_piece {code : Nat} {piece : List Char} (written : Piece code piece) :
    tokensFrom? (.string codes) (piece ++ rest) = tokensFrom? (.string (code :: codes)) rest := by
  have backslash : Scan.next (.string codes) '\\' = some ([], .escape codes) := rfl
  cases written with
  | @plain c notQuote notBackslash high =>
      have step : Scan.next (.string codes) c = some ([], .string (c.toNat :: codes)) := by
        simp [Scan.next, notQuote, notBackslash, high]
      exact tokensFrom?_silent step
  | @letter letter c meant =>
      have notCode : letter ≠ 'u' := by
        rintro rfl
        cases meant
      have step : Scan.next (.escape codes) letter = some ([], .string (c.toNat :: codes)) := by
        simp [Scan.next, notCode, meant]
      exact (tokensFrom?_silent backslash).trans (tokensFrom?_silent step)
  | digits readFirst readSecond readThird readFourth =>
      refine (tokensFrom?_silent backslash).trans ?_
      refine (tokensFrom?_silent rfl).trans ?_
      refine (tokensFrom?_silent (next_digit readFirst)).trans ?_
      refine (tokensFrom?_silent (next_digit readSecond)).trans ?_
      refine (tokensFrom?_silent (next_digit readThird)).trans ?_
      refine (tokensFrom?_silent (next_lastDigit readFourth)).trans ?_
      rw [Nat.zero_mul, Nat.zero_add]
      rfl

theorem tokensFrom?_pieces {read : List Nat} {pieces : List (List Char)}
    (written : List.Forall₂ Piece read pieces) :
    tokensFrom? (.string codes) (pieces.flatten ++ '\x22' :: rest) =
      (tokensFrom? .between rest).map
        (.scalar (.string ((textOfCodes? (codes.reverse ++ read)).map String.ofList)) :: ·) := by
  induction written generalizing codes with
  | nil =>
      have quote : Scan.next (.string codes) '\x22' =
        some ([.scalar (.string ((textOfCodes? codes.reverse).map String.ofList))], .between) := rfl
      rw [List.flatten_nil, List.nil_append, tokensFrom?_yield quote, List.append_nil]
  | cons first _ ih =>
      rw [List.flatten_cons, List.append_assoc, tokensFrom?_piece first, ih]
      simp

/-- A character of a string is written as a letter after a backslash, in hexadecimal digits, or as
it is. -/
theorem piece_escapeChar (c : Char) : Piece c.toNat (escapeChar c) := by
  unfold escapeChar
  split_ifs with quote backslash backspace feed newline return' tab low
  · exact .letter (by rw [quote]; rfl)
  · exact .letter (by rw [backslash]; rfl)
  · exact .letter (by rw [backspace]; rfl)
  · exact .letter (by rw [feed]; rfl)
  · exact .letter (by rw [newline]; rfl)
  · exact .letter (by rw [return']; rfl)
  · exact .letter (by rw [tab]; rfl)
  · have zero : Percent.hexValue? '0' = some 0 := rfl
    have upper : Percent.hexValue? (Nat.digitChar (c.toNat / 16)) = some (c.toNat / 16) :=
      hexValue?_digitChar (by omega)
    have lower : Percent.hexValue? (Nat.digitChar (c.toNat % 16)) = some (c.toNat % 16) :=
      hexValue?_digitChar (by omega)
    have code : ((0 * 16 + 0) * 16 + c.toNat / 16) * 16 + c.toNat % 16 = c.toNat := by omega
    have piece := Piece.digits zero zero upper lower
    rw [code] at piece
    exact piece
  · exact .plain quote backslash (Nat.le_of_not_lt low)

/-- The codes of characters are no surrogates, so they spell the text they come from. -/
theorem textOfCodes?_toNat (text : List Char) : textOfCodes? (text.map Char.toNat) = some text := by
  have scalar (c : Char) :
      isHighSurrogate c.toNat = false ∧ isLowSurrogate c.toNat = false := by
    have valid := Utf8.toNat_lt_or c
    simp only [isHighSurrogate, isLowSurrogate, Bool.and_eq_false_iff, decide_eq_false_iff_not]
    omega
  induction text with
  | nil => rfl
  | cons c text ih =>
      cases text with
      | nil => simp [textOfCodes?, scalar c]
      | cons next text =>
          rw [List.map_cons] at ih
          rw [List.map_cons, List.map_cons, textOfCodes?, (scalar c).1, (scalar c).2, ih]
          simp

/-- A string literal is written as one, whether it has a text or not. -/
theorem literal_renderString (literal : Option String) : Literal literal (renderString literal) := by
  cases literal with
  | some text =>
      refine ⟨text.toList.map Char.toNat, text.toList.map escapeChar, ?_, ?_, ?_⟩
      · rw [List.forall₂_map_left_iff, List.forall₂_map_right_iff, List.forall₂_same]
        intro c _
        exact piece_escapeChar c
      · rw [textOfCodes?_toNat, Option.map_some, String.ofList_toList]
      · rw [renderString, List.flatMap]
  | none =>
      have surrogate : Piece 0xD800 ['\\', 'u', 'd', '8', '0', '0'] :=
        @Piece.digits _ _ _ _ 13 8 0 0 rfl rfl rfl rfl
      exact ⟨[0xD800], [_], .cons surrogate .nil, rfl, rfl⟩

end Strings

namespace Spells

variable {tokens more : List Token} {text rest : List Char} {c : Char}

theorem nil : Spells [] [] := by
  intro rest _
  cases after : tokensFrom? .between rest <;> simp [after]

theorem blank (space : isSpace c) (spells : Spells tokens text) : Spells tokens (c :: text) := by
  intro rest closes
  have step : Scan.next .between c = some ([], .between) := by simp [Scan.next, Scan.start, space]
  rw [List.cons_append, tokensFrom?_silent step]
  exact spells rest closes

theorem blanks {blanks : List Char} (space : ∀ c ∈ blanks, isSpace c)
    (spells : Spells tokens text) : Spells tokens (blanks ++ text) := by
  induction blanks with
  | nil => exact spells
  | cons c blanks ih =>
      exact blank (space c (by simp)) (ih fun other mem => space other (by simp [mem]))

theorem sign {token : Token} (sign : punctuation? c = some token) (spells : Spells tokens text) :
    Spells (token :: tokens) (c :: text) := by
  intro rest closes
  have step : Scan.next .between c = some ([token], .between) := by
    have which : c ∈ ['[', ']', '\x7b', '\x7d', ',', ':'] := by
      unfold punctuation? at sign
      split at sign <;> simp_all
    simp only [List.mem_cons, List.not_mem_nil, or_false] at which
    rcases which with rfl | rfl | rfl | rfl | rfl | rfl <;> cases sign <;> rfl
  rw [List.cons_append, tokensFrom?_yield step, spells rest closes]
  cases tokensFrom? .between rest <;> rfl

/-- A string literal ends by itself. -/
theorem literal {literal : Option String} {written : List Char} (spelled : Literal literal written)
    (spells : Spells tokens text) :
    Spells (.scalar (.string literal) :: tokens) (written ++ text) := by
  intro rest closes
  rcases spelled with ⟨codes, pieces, each, rfl, rfl⟩
  have step : Scan.next .between '\x22' = some ([], .string []) := rfl
  simp only [List.cons_append, List.append_assoc, List.nil_append]
  rw [tokensFrom?_silent step, tokensFrom?_pieces each, spells rest closes, List.reverse_nil,
    List.nil_append]
  cases tokensFrom? .between rest <;> rfl

theorem string (literal : Option String) (spells : Spells tokens text) :
    Spells (.scalar (.string literal) :: tokens) (renderString literal ++ text) :=
  .literal (literal_renderString literal) spells

/-- Characters that are gathered spell a token once something closes them. -/
theorem gathered {state : List Char → Scan} {own : Char → Bool} {first : Char} {chars : List Char}
    {token : Token} (start : Scan.start first = some ([], state [first]))
    (step : ∀ read c, own c → (state read).next c = some ([], state (c :: read)))
    (ended : ∀ read c, own c = false → (state read).next c = (state read).restart c)
    (foreign : ∀ rest, Closes rest → ∀ c, rest.head? = some c → own c = false)
    (all : ∀ c ∈ chars, own c)
    (amounts : (state (chars.reverse ++ [first])).token? = some [token]) :
    Spells [token] (first :: chars) := by
  intro rest closes
  have begins : Scan.next .between first = some ([], state [first]) := start
  rw [List.cons_append, tokensFrom?_silent begins, tokensFrom?_gather step all]
  exact tokensFrom?_ended amounts fun c head => ended _ c (foreign rest closes c head)

theorem word {word : List Char} {value : Json} (known : word? word = some value) :
    Spells [.scalar value] word := by
  cases word with
  | nil => cases known
  | cons first chars =>
      have all : ∀ c ∈ first :: chars, isWordChar c := fun c => isWordChar_of_mem_word known
      have amounts : (Scan.word (chars.reverse ++ [first])).token? = some [.scalar value] := by
        simp [Scan.token?, known]
      refine gathered (start_of_isWordChar (all first List.mem_cons_self)) ?_ ?_
        (fun rest closes c head => (closes c head).1)
        (fun c mem => all c (List.mem_cons_of_mem first mem)) amounts
      · intro read c inside
        simp [Scan.next, inside]
      · intro read c outside
        simp [Scan.next, outside]

theorem number {written : List Char} {number : Number}
    (read : Number.parse? written = some number) : Spells [.scalar (.number number)] written := by
  rcases isNumberChar_of_parse? read with ⟨all, first, chars, rfl, begins⟩
  have amounts : (Scan.number (chars.reverse ++ [first])).token? =
      some [.scalar (.number number)] := by
    simp [Scan.token?, read]
  refine gathered (start_of_number begins) ?_ ?_ (fun rest closes c head => (closes c head).2)
    (fun c mem => all c (List.mem_cons_of_mem first mem)) amounts
  · intro read c inside
    simp [Scan.next, inside]
  · intro read c outside
    simp [Scan.next, outside]

/-- What may be gone on is put before a text that closes it. -/
theorem append (spells : Spells tokens text) (after : Spells more rest)
    (closes : ∀ tail, Closes tail → Closes (rest ++ tail)) :
    Spells (tokens ++ more) (text ++ rest) := by
  intro tail closed
  rw [List.append_assoc, spells (rest ++ tail) (closes tail closed), after tail closed]
  cases tokensFrom? .between tail <;> simp

theorem tokens?_eq (spells : Spells tokens text) : tokens? text = some tokens := by
  have whole := spells [] (by simp [Closes])
  rw [List.append_nil] at whole
  rw [tokens?, whole]
  simp [tokensFrom?, Scan.token?]

end Spells

end CommandUrl.Json

import CommandUrl.Address
import CommandUrl.Proofs.Text.Split
import Mathlib.Data.List.TakeWhile
import Mathlib.Data.Option.Basic

/-!
# Addresses with a word for a host

Under an ordinary scheme nothing is done to a host that consists of letters in
lower case, digits, hyphens and dots, and nothing but escaping is done to a
query. Each stage of reading such an address finds the delimiter that was put
there, because the part before it does not contain one.
-/

namespace CommandUrl.Address

/-- A character that a word may have. -/
def isWordChar (c : Char) : Bool :=
  ('a' ≤ c && c ≤ 'z') || Text.isDigit c || c = '-' || c = '.'

/-- A character that a scheme in lower case may have after the first. -/
def isPlainSchemeChar (c : Char) : Bool :=
  isWordChar c || c = '+'

/-- A scheme in lower case that is not special. -/
structure PlainScheme (scheme : List Char) : Prop where
  begins : ∃ first rest, scheme = first :: rest ∧ 'a' ≤ first ∧ first ≤ 'z'
  chars : ∀ c ∈ scheme, isPlainSchemeChar c
  ordinary : SchemeKind.of scheme = .ordinary

/-- A host that is a word. -/
structure PlainWord (word : List Char) : Prop where
  nonempty : word ≠ []
  chars : ∀ c ∈ word, isWordChar c

/-- What may follow a host: nothing, or a colon and the digits of a port. -/
inductive PlainPort : List Char → Prop where
  | absent : PlainPort []
  | digits {digits : List Char} (all : ∀ c ∈ digits, Text.isDigit c)
      (small : Text.numberOf 10 digits < 0x10000) : PlainPort (':' :: digits)

theorem ne_of_class {class? : Char → Bool} {c other : Char} (member : class? c)
    (outside : class? other = false) : c ≠ other := by
  rintro rfl
  simp [outside] at member

theorem toNat_of_isIgnored {c : Char} (ignored : isIgnored c) : c.toNat < 0x20 := by
  simp only [isIgnored, Bool.or_eq_true, decide_eq_true_eq] at ignored
  rcases ignored with (rfl | rfl) | rfl <;> decide

theorem isIgnored_of_lt {c : Char} (visible : 0x20 < c.toNat) : isIgnored c = false := by
  rw [Bool.eq_false_iff]
  intro ignored
  have low := toNat_of_isIgnored ignored
  omega

theorem isTrimmed_of_lt {c : Char} (visible : 0x20 < c.toNat) : isTrimmed c = false := by
  simp only [isTrimmed, decide_eq_false_iff_not]
  omega

section Clean

variable {text : List Char}

theorem dropWhile_of_head? {drops : Char → Bool}
    (kept : ∀ c, text.head? = some c → drops c = false) : text.dropWhile drops = text := by
  cases text with
  | nil => rfl
  | cons c text => rw [List.dropWhile_cons, kept c rfl]; rfl

/-- A text without what falls away at its end and inside it. -/
def settle (text : List Char) : List Char :=
  ((text.reverse.dropWhile isTrimmed).reverse).filter (!isIgnored ·)

theorem clean_eq_settle (head : ∀ c, text.head? = some c → isTrimmed c = false) :
    clean text = settle text := by
  rw [clean, dropWhile_of_head? head, settle]

/-- A text that could not lose its last character loses nothing at the end for being followed by
another. -/
theorem settle_append (last : ∀ c, text.getLast? = some c → isTrimmed c = false)
    (rest : List Char) : settle (text ++ rest) = text.filter (!isIgnored ·) ++ settle rest := by
  have kept : text.reverse.dropWhile isTrimmed = text.reverse :=
    dropWhile_of_head? (by simpa using last)
  unfold settle
  rw [List.reverse_append, List.dropWhile_append, kept]
  split
  · next empty =>
      rw [List.isEmpty_iff.mp empty]
      simp
  · simp

theorem filter_of_kept (kept : ∀ c ∈ text, isIgnored c = false) :
    text.filter (!isIgnored ·) = text := by
  rw [List.filter_eq_self]
  intro c mem
  simp [kept c mem]

theorem clean_of_kept (head : ∀ c, text.head? = some c → isTrimmed c = false)
    (last : ∀ c, text.getLast? = some c → isTrimmed c = false)
    (kept : ∀ c ∈ text, isIgnored c = false) : clean text = text := by
  have settled := settle_append last []
  rw [List.append_nil, filter_of_kept kept] at settled
  rw [clean_eq_settle head, settled]
  exact List.append_nil text

end Clean

section Parts

variable {scheme word query : List Char}

theorem toNat_of_isWordChar {c : Char} (inside : isWordChar c) :
    0x61 ≤ c.toNat ∧ c.toNat ≤ 0x7A ∨ 0x2D ≤ c.toNat ∧ c.toNat ≤ 0x39 := by
  simp only [isWordChar, Text.isDigit, Bool.or_eq_true, Bool.and_eq_true,
    decide_eq_true_eq] at inside
  rcases inside with ((letter | digit) | rfl) | rfl
  · exact Or.inl letter
  · have bounds : 0x30 ≤ c.toNat ∧ c.toNat ≤ 0x39 := digit
    exact Or.inr (by omega)
  · exact Or.inr (by decide)
  · exact Or.inr (by decide)

theorem toNat_of_isPlainSchemeChar {c : Char} (inside : isPlainSchemeChar c) :
    0x61 ≤ c.toNat ∧ c.toNat ≤ 0x7A ∨ 0x2B ≤ c.toNat ∧ c.toNat ≤ 0x39 := by
  simp only [isPlainSchemeChar, Bool.or_eq_true, decide_eq_true_eq] at inside
  rcases inside with inside | rfl
  · have bounds := toNat_of_isWordChar inside
    omega
  · exact Or.inr (by decide)

theorem toLower_of_isPlainSchemeChar {c : Char} (plain : isPlainSchemeChar c) : c.toLower = c := by
  have bounds := toNat_of_isPlainSchemeChar plain
  unfold Char.toLower
  rw [dif_neg]
  rintro ⟨least, most⟩
  have least : 0x41 ≤ c.toNat := least
  have most : c.toNat ≤ 0x5A := most
  omega

theorem toNat_of_isSchemeChar {c : Char} (inside : isSchemeChar c) :
    0x2B ≤ c.toNat ∧ c.toNat ≤ 0x7A := by
  simp only [isSchemeChar, Text.isAsciiLetter, Text.isDigit, Bool.or_eq_true, Bool.and_eq_true,
    decide_eq_true_eq] at inside
  rcases inside with ((((small | capital) | digit) | rfl) | rfl) | rfl
  · have bounds : 0x61 ≤ c.toNat ∧ c.toNat ≤ 0x7A := small
    omega
  · have bounds : 0x41 ≤ c.toNat ∧ c.toNat ≤ 0x5A := capital
    omega
  · have bounds : 0x30 ≤ c.toNat ∧ c.toNat ≤ 0x39 := digit
    omega
  all_goals decide

theorem isSchemeChar_of_isPlainSchemeChar {c : Char} (inside : isPlainSchemeChar c) :
    isSchemeChar c := by
  simp only [isPlainSchemeChar, isWordChar, Bool.or_eq_true] at inside
  simp only [isSchemeChar, Text.isAsciiLetter, Bool.or_eq_true]
  rcases inside with (((letter | digit) | hyphen) | dot) | plus
  · simp only [letter, true_or]
  · simp only [digit, true_or, or_true]
  · simp only [hyphen, true_or, or_true]
  · simp only [dot, or_true]
  · simp only [plus, true_or, or_true]

theorem splitScheme?_append {letters : List Char}
    (letter : ∃ first, letters.head? = some first ∧ Text.isAsciiLetter first)
    (inside : ∀ c ∈ letters, isSchemeChar c) (rest : List Char) :
    splitScheme? (letters ++ ':' :: rest) = some (letters.map Char.toLower, rest) := by
  have outside : isSchemeChar ':' = false := by decide
  have taken : (letters ++ ':' :: rest).takeWhile isSchemeChar = letters := by
    rw [List.takeWhile_append_of_pos inside, List.takeWhile_cons, outside]
    simp
  have dropped : (letters ++ ':' :: rest).dropWhile isSchemeChar = ':' :: rest := by
    rw [List.dropWhile_append_of_pos inside, List.dropWhile_cons, outside]
    simp
  rcases letter with ⟨first, begins, letter⟩
  unfold splitScheme?
  rw [dropped, taken, List.head?_append, begins]
  simp [letter]

theorem letters_of_splitScheme? {text rest : List Char}
    (split : splitScheme? text = some (scheme, rest)) :
    ∃ letters, (∃ first, letters.head? = some first ∧ Text.isAsciiLetter first) ∧
      (∀ c ∈ letters, isSchemeChar c) ∧ scheme = letters.map Char.toLower ∧
      text = letters ++ ':' :: rest := by
  unfold splitScheme? at split
  split at split
  · next first others head dropped =>
      split at split
      · next letter =>
          cases split
          have inside : isSchemeChar first := by simp [isSchemeChar, letter]
          refine ⟨text.takeWhile isSchemeChar, ⟨first, ?_, letter⟩, ?_, rfl, ?_⟩
          · cases text with
            | nil => cases head
            | cons c text =>
                cases head
                rw [List.takeWhile_cons_of_pos inside, List.head?_cons]
          · exact fun c mem => List.mem_takeWhile_imp mem
          · rw [← dropped, List.takeWhile_append_dropWhile]
      · cases split
  · cases split

namespace PlainScheme

theorem letter (plain : PlainScheme scheme) :
    ∃ first, scheme.head? = some first ∧ Text.isAsciiLetter first := by
  rcases plain.begins with ⟨first, others, rfl, least, most⟩
  exact ⟨first, rfl, by simp [Text.isAsciiLetter, least, most]⟩

theorem isSchemeChar (plain : PlainScheme scheme) : ∀ c ∈ scheme, isSchemeChar c := by
  intro c mem
  exact isSchemeChar_of_isPlainSchemeChar (plain.chars c mem)

theorem map_toLower (plain : PlainScheme scheme) : scheme.map Char.toLower = scheme := by
  rw [List.map_congr_left fun c mem => toLower_of_isPlainSchemeChar (plain.chars c mem),
    List.map_id']

end PlainScheme

theorem splitScheme?_plain (plain : PlainScheme scheme) (rest : List Char) :
    splitScheme? (scheme ++ ':' :: rest) = some (scheme, rest) := by
  rw [splitScheme?_append plain.letter plain.isSchemeChar, plain.map_toLower]

/-- Outside brackets the port starts at the first colon. -/
theorem cutPort_of_unbracketed {text : List Char} (noBracket : '[' ∉ text) :
    cutPort false text = (text.takeWhile (· != ':'), text.dropWhile (· != ':')) := by
  induction text with
  | nil => rfl
  | cons c text ih =>
      rw [List.mem_cons, not_or] at noBracket
      by_cases colon : c = ':'
      · simp [cutPort, colon]
      · simp [cutPort, colon, Ne.symm noBracket.1, ih noBracket.2]

theorem PlainWord.not_mem (plain : PlainWord word) {c : Char} (outside : isWordChar c = false) :
    c ∉ word := by
  intro mem
  exact ne_of_class (plain.chars c mem) outside rfl

theorem ordinaryHost?_plain (plain : PlainWord word) : ordinaryHost? word = some word := by
  have unbracketed : word.head? ≠ some '[' := by
    intro bracket
    exact plain.not_mem (by decide) (List.mem_of_mem_head? bracket)
  have allowed : word.any isForbiddenInHost = false := by
    rw [List.any_eq_false]
    intro c mem forbidden
    unfold isForbiddenInHost at forbidden
    split at forbidden
    all_goals first | exact plain.not_mem (by decide) mem | simp at forbidden
  have kept : ∀ c ∈ word, c.toNat < 0x80 ∧ Percent.isControl c = false := by
    intro c mem
    have bounds := toNat_of_isWordChar (plain.chars c mem)
    refine ⟨by omega, ?_⟩
    simp only [Percent.isControl, Bool.or_eq_false_iff, decide_eq_false_iff_not]
    omega
  rw [ordinaryHost?, if_neg unbracketed, allowed, Percent.encode_of_kept kept]
  simp

section Ports

variable {port : List Char}

theorem PlainPort.acceptsPort (plain : PlainPort port) : acceptsPort port := by
  cases plain with
  | absent => rfl
  | digits all small =>
      have taken := List.takeWhile_eq_self_iff.mpr all
      have dropped := List.dropWhile_eq_nil_iff.mpr all
      simp [Address.acceptsPort, taken, dropped, small]

theorem PlainPort.not_mem (plain : PlainPort port) {c : Char} (outside : Text.isDigit c = false)
    (other : c ≠ ':') : c ∉ port := by
  cases plain with
  | absent => simp
  | digits all _ =>
      rw [List.mem_cons, not_or]
      exact ⟨other, fun mem => ne_of_class (all c mem) outside rfl⟩

theorem not_mem_place (plain : PlainWord word) (plainPort : PlainPort port) {c : Char}
    (outside : isWordChar c = false) (other : c ≠ ':') : c ∉ word ++ port := by
  have noDigit : Text.isDigit c = false := by
    simp only [isWordChar, Bool.or_eq_false_iff] at outside
    exact outside.1.1.2
  rw [List.mem_append, not_or]
  exact ⟨plain.not_mem outside, plainPort.not_mem noDigit other⟩

theorem cutPort_plain (plain : PlainWord word) (plainPort : PlainPort port) :
    cutPort false (word ++ port) = (word, port) := by
  have inside : ∀ c ∈ word, (c != ':') = true := by
    intro c mem
    simpa using ne_of_class (plain.chars c mem) (by decide)
  have noBracket : '[' ∉ word ++ port := not_mem_place plain plainPort (by decide) (by decide)
  rw [cutPort_of_unbracketed noBracket, List.takeWhile_append_of_pos inside,
    List.dropWhile_append_of_pos inside]
  cases plainPort with
  | absent => simp
  | digits => simp

theorem toNat_of_mem_place (plain : PlainWord word) (plainPort : PlainPort port) {c : Char}
    (mem : c ∈ word ++ port) : 0x2D ≤ c.toNat := by
  rcases List.mem_append.mp mem with inWord | inPort
  · have bounds := toNat_of_isWordChar (plain.chars c inWord)
    omega
  · cases plainPort with
    | absent => cases inPort
    | digits all _ =>
        rcases List.mem_cons.mp inPort with rfl | inDigits
        · decide
        · have digit : isWordChar c := by simp [isWordChar, all c inDigits]
          have bounds := toNat_of_isWordChar digit
          omega

theorem endsAuthority_of_place (plain : PlainWord word) (plainPort : PlainPort port) {c : Char}
    (mem : c ∈ word ++ port) : endsAuthority .ordinary c = false := by
  rw [Bool.eq_false_iff]
  intro ends
  simp only [endsAuthority, Bool.or_eq_true, decide_eq_true_eq] at ends
  rcases ends with ((rfl | rfl) | rfl) | backslash
  · exact not_mem_place plain plainPort (by decide) (by decide) mem
  · exact not_mem_place plain plainPort (by decide) (by decide) mem
  · exact not_mem_place plain plainPort (by decide) (by decide) mem
  · simp at backslash

theorem at_not_mem (plain : PlainWord word) (plainPort : PlainPort port) : '@' ∉ word ++ port :=
  not_mem_place plain plainPort (by decide) (by decide)

/-- The host is what stands after the credentials, if any, and before a port. -/
theorem authorityHost?_of_place (plain : PlainWord word) (plainPort : PlainPort port)
    {authority : List Char} (tail : List Char)
    (chosen : Text.cutLast? '@' authority = none ∧ authority = word ++ port ∨
      ∃ credentials, Text.cutLast? '@' authority = some (credentials, word ++ port)) :
    authorityHost? .ordinary authority tail = some (some word) := by
  have nonempty : ¬ word.isEmpty = true := by simp [plain.nonempty]
  have read : host? .ordinary word = some word := ordinaryHost?_plain plain
  rcases chosen with ⟨cut, rfl⟩ | ⟨credentials, cut⟩
  all_goals
    unfold authorityHost?
    rw [cut]
    dsimp only
    rw [cutPort_plain plain plainPort, (Option.guard_eq_some' ()).mpr (by simp [plain.nonempty])]
    dsimp only
    rw [if_neg nonempty, (Option.guard_eq_some' ()).mpr plainPort.acceptsPort, read]
    rfl

theorem authorityHost?_plain (plain : PlainWord word) (plainPort : PlainPort port)
    (tail : List Char) : authorityHost? .ordinary (word ++ port) tail = some (some word) := by
  have uncredited := Text.cutLast?_of_not_mem (at_not_mem plain plainPort)
  exact authorityHost?_of_place plain plainPort tail (Or.inl ⟨uncredited, rfl⟩)

/-- Credentials before a host make no difference to it. -/
theorem authorityHost?_credited (plain : PlainWord word) (plainPort : PlainPort port)
    (credentials tail : List Char) :
    authorityHost? .ordinary (credentials ++ '@' :: (word ++ port)) tail = some (some word) := by
  have credited := Text.cutLast?_of_last credentials (at_not_mem plain plainPort)
  exact authorityHost?_of_place plain plainPort tail (Or.inr ⟨credentials, credited⟩)

end Ports

theorem splitAuthority_append {authority tail : List Char}
    (within : ∀ c ∈ authority, endsAuthority .ordinary c = false)
    (ended : ∀ c, tail.head? = some c → endsAuthority .ordinary c) :
    splitAuthority .ordinary (authority ++ tail) = (authority, tail) := by
  have inside : ∀ c ∈ authority, (!endsAuthority .ordinary c) = true := by
    intro c mem
    simp [within c mem]
  unfold splitAuthority
  rw [List.takeWhile_append_of_pos inside, List.dropWhile_append_of_pos inside]
  cases tail with
  | nil => simp
  | cons c tail => simp [ended c rfl]

theorem locate?_plain (plain : PlainWord word) (query : List Char) :
    locate? .ordinary ('/' :: '/' :: word ++ '?' :: query) = some (some word, '?' :: query) := by
  have split : splitAuthority .ordinary (word ++ '?' :: query) = (word, '?' :: query) := by
    apply splitAuthority_append
    · intro c mem
      exact endsAuthority_of_place plain .absent (List.mem_append_left [] mem)
    · rintro c ⟨⟩
      rfl
  have hosted := authorityHost?_plain plain .absent ('?' :: query)
  rw [List.append_nil] at hosted
  simp only [locate?, List.cons_append, split, hosted, Option.map_some]

theorem queryOf_plain (noHash : '#' ∉ query) :
    queryOf .ordinary ('?' :: query) = Percent.encode (escapedInQuery .ordinary) query := by
  have whole : query.takeWhile (· != '#') = query := by
    rw [List.takeWhile_eq_self_iff]
    intro c mem
    simp only [bne_iff_ne, ne_eq]
    rintro rfl
    exact noHash mem
  simp [queryOf, whole]

/-- An address of a word under an ordinary scheme is read as what it was put together from, the
query escaped. -/
theorem parse_plain (plainScheme : PlainScheme scheme) (plainWord : PlainWord word)
    (noHash : '#' ∉ query) {raw : List Char}
    (written : raw = scheme ++ ':' :: '/' :: '/' :: word ++ '?' :: query)
    (cleaned : clean raw = raw) :
    parse raw = .ok
      { scheme, host := some word, query := Percent.encode (escapedInQuery .ordinary) query } := by
  have split : splitScheme? raw = some (scheme, '/' :: '/' :: word ++ '?' :: query) := by
    rw [written, List.append_assoc]
    exact splitScheme?_plain plainScheme _
  simp only [parse, cleaned, split, plainScheme.ordinary, locate?_plain plainWord,
    queryOf_plain noHash]

end Parts

end CommandUrl.Address

import CommandUrl.Json.Number
import CommandUrl.Proofs.Text.Digits
import Mathlib.Data.Option.Basic

/-!
# How numbers are written

A number has a sign or none, digits in which no zero stands in front of others,
and after them perhaps a fraction and perhaps an exponent, whose letter may be a
capital and whose sign may be left out. However it is written in this way, it is
read as itself. A whole number is written in its decimal digits, and if it fits
64 bits it is known by them.
-/

namespace CommandUrl.Json

/-- An exponent is written with a letter in either case and with a sign, which may be left out if
it is no minus. -/
def Exponent.Written (exponent : Exponent) (text : List Char) : Prop :=
  Number.isDigits exponent.digits ∧
    ∃ letter sign, (letter = 'e' ∨ letter = 'E') ∧
      (exponent.negative = true ∧ sign = ['-'] ∨
        exponent.negative = false ∧ (sign = [] ∨ sign = ['+'])) ∧
      text = letter :: sign ++ exponent.digits

namespace Number

/-- The text is an exponent, or nothing where there is none. -/
def ExponentPart (exponent : Option Exponent) (text : List Char) : Prop :=
  exponent = none ∧ text = [] ∨ ∃ part, exponent = some part ∧ part.Written text

/-- The text is a fraction and an exponent, or nothing where there is none. -/
def WrittenTail (number : Number) (text : List Char) : Prop :=
  ∃ fraction exponent, text = fraction ++ exponent ∧
    (number.fraction = none ∧ fraction = [] ∨
      ∃ digits, number.fraction = some digits ∧ isDigits digits ∧ fraction = '.' :: digits) ∧
    ExponentPart number.exponent exponent

/-- The text is a way to write the number. -/
def Written (number : Number) (text : List Char) : Prop :=
  isDigits number.whole ∧ (number.whole.head? = some '0' → number.whole = ['0']) ∧
    ∃ tail, number.WrittenTail tail ∧
      text = (if number.negative then ['-'] else []) ++ number.whole ++ tail

/-- The text does not begin with a digit. -/
def Digitless (text : List Char) : Prop :=
  ∀ c, text.head? = some c → Text.isDigit c = false

section Reading

variable {digits rest : List Char}

theorem all_of_isDigits (spelled : isDigits digits) : ∀ c ∈ digits, Text.isDigit c := by
  simp only [isDigits, Bool.and_eq_true, List.all_eq_true] at spelled
  exact spelled.2

theorem ne_nil_of_isDigits (spelled : isDigits digits) : digits ≠ [] := by
  rintro rfl
  cases spelled

theorem takeWhile_digits (spelled : isDigits digits) (stops : Digitless rest) :
    (digits ++ rest).takeWhile Text.isDigit = digits ∧
      (digits ++ rest).dropWhile Text.isDigit = rest := by
  rw [List.takeWhile_append_of_pos (all_of_isDigits spelled),
    List.dropWhile_append_of_pos (all_of_isDigits spelled)]
  cases rest with
  | nil => simp
  | cons c rest =>
      have foreign := stops c rfl
      simp [foreign]

theorem exponent?_of_sign {negative : Bool} {sign : List Char} (spelled : isDigits digits)
    (signed : negative = true ∧ sign = ['-'] ∨ negative = false ∧ (sign = [] ∨ sign = ['+'])) :
    exponent? (sign ++ digits) = some ⟨negative, digits⟩ := by
  rcases signed with ⟨rfl, rfl⟩ | ⟨rfl, rfl | rfl⟩
  · simp [exponent?, spelled]
  · cases digits with
    | nil => cases spelled
    | cons first digits =>
        have digit := all_of_isDigits spelled first List.mem_cons_self
        unfold exponent?
        split
        · next same =>
            cases same
            cases digit
        · next same =>
            cases same
            cases digit
        · rw [List.nil_append, if_pos spelled]
  · simp [exponent?, spelled]

/-- What does not begin with a digit or a point cannot be taken for more of the number. -/
theorem head_of_exponentPart {exponent : Option Exponent} (written : ExponentPart exponent rest) :
    Digitless rest ∧ rest.head? ≠ some '.' := by
  rcases written with ⟨_, rfl⟩ | ⟨part, _, _, letter, sign, cased, _, rfl⟩
  · exact ⟨by simp [Digitless], by simp⟩
  · constructor
    · rintro c ⟨⟩
      rcases cased with rfl | rfl <;> rfl
    · rcases cased with rfl | rfl <;> simp

theorem read_exponentPart {exponent : Option Exponent} :
    ExponentPart exponent rest →
      (match rest with
        | [] => some none
        | letter :: rest =>
          if letter = 'e' || letter = 'E' then (exponent? rest).map some else none) =
        some exponent := by
  intro written
  rcases written with ⟨rfl, rfl⟩ | ⟨part, rfl, spelled, letter, sign, cased, signed, rfl⟩
  · rfl
  · have read := exponent?_of_sign spelled signed
    have marked : (letter = 'e' || letter = 'E') = true := by simpa using cased
    dsimp only [List.cons_append]
    rw [if_pos marked, read]
    rfl

/-- What follows the whole digits is read as the fraction and the exponent. -/
theorem parts?_of_writtenTail {number : Number} (written : number.WrittenTail rest) :
    Digitless rest ∧ parts? rest = some (number.fraction, number.exponent) := by
  rcases written with ⟨fraction, exponent, rfl, fractional, exponential⟩
  rcases head_of_exponentPart exponential with ⟨stops, noPoint⟩
  have read := read_exponentPart exponential
  rcases fractional with ⟨without, rfl⟩ | ⟨digits, fractional, spelled, rfl⟩
  · refine ⟨stops, ?_⟩
    rw [List.nil_append, without]
    unfold parts?
    dsimp only
    split
    · exact absurd rfl noPoint
    · exact congrArg (Option.map fun exponent => (none, exponent)) read
  · rcases takeWhile_digits spelled stops with ⟨taken, left⟩
    refine ⟨by rintro c ⟨⟩; rfl, ?_⟩
    have nonempty : digits.isEmpty = false := by simpa using ne_nil_of_isDigits spelled
    rw [fractional, List.cons_append]
    unfold parts?
    dsimp only
    split
    · next more same =>
        cases same
        rw [taken, left, nonempty]
        exact congrArg (Option.map fun exponent => (some digits, exponent)) read
    · next noPoint => exact absurd rfl (noPoint _)

/-- However a number is written, it is read as itself. -/
theorem parse?_of_written {number : Number} {text : List Char} (written : number.Written text) :
    parse? text = some number := by
  rcases written with ⟨spelled, alone, tail, tailed, rfl⟩
  rcases parts?_of_writtenTail tailed with ⟨stops, parts⟩
  rcases takeWhile_digits spelled stops with ⟨taken, left⟩
  rcases number with ⟨negative, whole, fraction, exponent⟩
  dsimp only at spelled alone parts taken left
  have nonempty : whole.isEmpty = false := by simpa using ne_nil_of_isDigits spelled
  have begins : (whole.head? != some '0' || whole.length = 1) = true := by
    by_cases zero : whole.head? = some '0'
    · simp [alone zero]
    · simp [zero]
  cases negative with
  | true =>
      simp only [if_true, List.cons_append, List.nil_append, parse?]
      rw [taken, left, parts, nonempty, begins]
      rfl
  | false =>
      cases whole with
      | nil => cases spelled
      | cons first whole =>
          have digit := all_of_isDigits spelled first List.mem_cons_self
          simp only [Bool.false_eq_true, if_false, List.nil_append, parse?]
          split
          · next minus =>
              cases minus
              cases digit
          · rw [taken, left, parts, nonempty, begins]
            rfl

end Reading

section Whole

theorem isDigits_decimal (value : Nat) : isDigits (Text.decimal value) := by
  have nonempty : (Text.decimal value).isEmpty = false := by
    simpa using Text.decimal_ne_nil value
  simpa [isDigits, nonempty] using Text.isDigit_of_mem_decimal value

theorem written_ofNat (value : Nat) : (ofNat value).Written (ofNat value).render := by
  refine ⟨isDigits_decimal value, ?_, [], ⟨[], [], rfl, Or.inl ⟨rfl, rfl⟩, Or.inl ⟨rfl, rfl⟩⟩, ?_⟩
  · intro zero
    rw [Text.head?_decimal zero]
    rfl
  · simp [ofNat, render]

/-- A whole number that fits 64 bits is known by its digits. -/
theorem unsigned?_ofNat {value : Nat} (fits : value < Nat.pow 2 64) :
    (ofNat value).unsigned? = some value := by
  have within : value ≤ bound false := Nat.le_pred_of_lt fits
  simp [unsigned?, integer?, ofNat, Text.numberOf_decimal, within]

end Whole

end Number

end CommandUrl.Json

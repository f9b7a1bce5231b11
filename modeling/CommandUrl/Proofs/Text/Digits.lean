import CommandUrl.Text.Digits

/-!
# Decimal digits

A number in decimal digits is read back from them. The digits of a number of
two digits or more are those of its tenth and one more digit, and both facts
about them go by this step: that they spell the number, and that the first of
them is no zero.
-/

namespace CommandUrl.Text

theorem isDigit_digitChar {digit : Nat} (low : digit < 10) : isDigit (Nat.digitChar digit) := by
  have all : ∀ digit : Fin 10, isDigit (Nat.digitChar digit.val) := by decide
  exact all ⟨digit, low⟩

theorem hexValue?_digitChar_of_lt {digit : Nat} (low : digit < 10) :
    Percent.hexValue? (Nat.digitChar digit) = some digit := by
  have all : ∀ digit : Fin 10, Percent.hexValue? (Nat.digitChar digit.val) = some digit.val := by
    decide
  exact all ⟨digit, low⟩

theorem decimal_of_lt {number : Nat} (low : number < 10) :
    decimal number = [Nat.digitChar number] :=
  Nat.toDigits_of_lt_base low

theorem decimal_of_le {number : Nat} (high : 10 ≤ number) :
    decimal number = decimal (number / 10) ++ [Nat.digitChar (number % 10)] :=
  Nat.toDigits_of_base_le (by decide) high

theorem decimal_ne_nil (number : Nat) : decimal number ≠ [] :=
  Nat.toDigits_ne_nil

theorem isDigit_of_mem_decimal (number : Nat) : ∀ c ∈ decimal number, isDigit c := by
  induction number using Nat.strongRecOn with
  | ind number ih =>
      rcases Nat.lt_or_ge number 10 with low | high
      · rw [decimal_of_lt low]
        simpa using isDigit_digitChar low
      · rw [decimal_of_le high]
        intro c mem
        rcases List.mem_append.mp mem with earlier | last
        · exact ih (number / 10) (by omega) c earlier
        · simp only [List.mem_singleton] at last
          subst last
          exact isDigit_digitChar (Nat.mod_lt number (by decide))

theorem numberOf_append (base : Nat) (digits : List Char) (digit : Char) :
    numberOf base (digits ++ [digit]) =
      numberOf base digits * base + (Percent.hexValue? digit).getD 0 := by
  simp [numberOf]

theorem numberOf_decimal (number : Nat) : numberOf 10 (decimal number) = number := by
  induction number using Nat.strongRecOn with
  | ind number ih =>
      rcases Nat.lt_or_ge number 10 with low | high
      · simp [decimal_of_lt low, numberOf, hexValue?_digitChar_of_lt low]
      · have last : number % 10 < 10 := Nat.mod_lt number (by decide)
        rw [decimal_of_le high, numberOf_append, ih (number / 10) (by omega),
          hexValue?_digitChar_of_lt last, Option.getD_some]
        omega

/-- Only zero is written with a zero in front. -/
theorem head?_decimal {number : Nat} (zero : (decimal number).head? = some '0') : number = 0 := by
  induction number using Nat.strongRecOn with
  | ind number ih =>
      rcases Nat.lt_or_ge number 10 with low | high
      · have all : ∀ number : Fin 10, Nat.digitChar number.val = '0' → number.val = 0 := by decide
        rw [decimal_of_lt low] at zero
        exact all ⟨number, low⟩ (Option.some.inj zero)
      · rw [decimal_of_le high] at zero
        cases tenth : decimal (number / 10) with
        | nil => exact absurd tenth (decimal_ne_nil _)
        | cons first rest =>
            rw [tenth] at zero
            have small := ih (number / 10) (by omega) (by rw [tenth]; exact zero)
            omega

end CommandUrl.Text

import CommandUrl.Proofs.Retry
import Mathlib

/-!
# The scheme of a command

An address may spell its scheme in any case, and reading it lowers the scheme,
whether it is read at the first or at the second attempt. The scheme that is
configured is compared as it stands. So the case of the address never matters,
and the case of the configured scheme does: one that has a capital letter is the
scheme of no address at all, not even of one that spells it in the same way.
-/

namespace CommandUrl

namespace Address

/-- A scheme as an address may spell it: a letter, then letters, digits and the signs plus, minus
and dot, in any case. -/
structure SpelledScheme (scheme : List Char) : Prop where
  letter : ∃ first, scheme.head? = some first ∧ Text.isAsciiLetter first
  chars : ∀ c ∈ scheme, isSchemeChar c

variable {scheme rest : List Char} {located : Address}

theorem cases_of_mem_spelled (spelled : SpelledScheme scheme) {c : Char}
    (mem : c ∈ scheme ++ "://".toList) : isSchemeChar c ∨ c = ':' ∨ c = '/' := by
  rcases List.mem_append.mp mem with inScheme | inMark
  · exact Or.inl (spelled.chars c inScheme)
  · right
    simpa [or_assoc] using inMark

/-- Whatever follows its scheme, an address that can be read has that scheme, lowered. -/
theorem scheme_of_parse (spelled : SpelledScheme scheme)
    (read : parse (scheme ++ "://".toList ++ rest) = .ok located) :
    located.scheme = scheme.map Char.toLower := by
  have visible : ∀ c ∈ scheme ++ "://".toList, 0x20 < c.toNat := by
    intro c mem
    rcases cases_of_mem_spelled spelled mem with inside | rfl | rfl
    · have bounds := toNat_of_isSchemeChar inside
      omega
    · decide
    · decide
  have cleaned : clean (scheme ++ "://".toList ++ rest) =
      scheme ++ ':' :: '/' :: '/' :: settle rest := by
    rw [clean_eq_settle, settle_append, filter_of_kept]
    · simp
    · intro c mem
      exact isIgnored_of_lt (visible c mem)
    · intro c last
      exact isTrimmed_of_lt (visible c (List.mem_of_getLast? last))
    · intro c head
      rcases spelled.letter with ⟨first, begins, _⟩
      apply isTrimmed_of_lt
      apply visible
      apply List.mem_of_mem_head?
      simpa [begins] using head
  have split := splitScheme?_append spelled.letter spelled.chars ('/' :: '/' :: settle rest)
  unfold parse at read
  rw [cleaned, split] at read
  dsimp only at read
  split at read
  · cases read
  · cases read
    rfl

end Address

namespace Command

variable {scheme expected rest raw : String} {located : Address}

theorem kept_of_isSchemeChar {c : Char} (inside : Address.isSchemeChar c) :
    c.toNat < 0x80 ∧ escapedOnRetry c = false := by
  have bounds := Address.toNat_of_isSchemeChar inside
  refine ⟨by omega, ?_⟩
  rw [Bool.eq_false_iff]
  intro escaped
  simp only [escapedOnRetry, Percent.isControl, Bool.or_eq_true, decide_eq_true_eq] at escaped
  have visible : ¬ (c.toNat < 0x20 ∨ c.toNat = 0x7F) := by omega
  simp only [visible, false_or, or_assoc] at escaped
  rcases escaped with rfl | rfl | rfl | rfl | rfl | rfl | rfl | rfl | rfl | rfl | rfl | rfl | rfl |
    rfl
  all_goals cases inside

/-- Escaping does not touch the scheme, so the second attempt reads the same scheme as the first. -/
theorem scheme_of_address (spelled : Address.SpelledScheme scheme.toList)
    (read : address (scheme ++ "://" ++ rest) = .ok located) :
    String.ofList located.scheme = scheme.toLower := by
  have lowered : located.scheme = scheme.toList.map Char.toLower := by
    cases direct : Address.parse (scheme ++ "://" ++ rest).toList with
    | ok first =>
        rw [address_of_ok direct] at read
        cases read
        rw [String.toList_append, String.toList_append] at direct
        exact Address.scheme_of_parse spelled direct
    | error problem =>
        have again := escaped_of_address direct read
        have kept : ∀ c ∈ scheme.toList ++ "://".toList,
            c.toNat < 0x80 ∧ escapedOnRetry c = false := by
          intro c mem
          rcases Address.cases_of_mem_spelled spelled mem with inside | rfl | rfl
          · exact kept_of_isSchemeChar inside
          · decide
          · decide
        rw [String.toList_append, String.toList_append, Percent.encode_append,
          Percent.encode_of_kept kept] at again
        exact Address.scheme_of_parse spelled again
  rw [lowered]
  apply String.toList_injective
  simp [String.toLower]

theorem ofAddress_wrongScheme_iff :
    (∃ failure, ofAddress raw expected located = .error failure ∧
      failure.code = "WRONG_SCHEME") ↔ String.ofList located.scheme ≠ expected := by
  unfold ofAddress
  by_cases same : String.ofList located.scheme = expected
  · simp only [same, bne_self_eq_false, Bool.false_eq_true, if_false]
    cases located.host with
    | none =>
        constructor
        · rintro ⟨failure, refused, code⟩
          cases refused
          simp [Failure.code] at code
        · intro differ
          exact absurd rfl differ
    | some host =>
        constructor
        · rintro ⟨failure, refused, _⟩
          cases refused
        · intro differ
          exact absurd rfl differ
  · simp only [bne_iff_ne, ne_eq, same, not_false_eq_true, if_true, iff_true]
    exact ⟨_, rfl, rfl⟩

theorem toLower_toLower (text : String) : text.toLower.toLower = text.toLower := by
  apply String.toList_injective
  simp [String.toLower, Char.toLower_toLower_eq_toLower]

/-- Where the text can be read, as it stands or escaped, it is said to have the wrong scheme if its
scheme is another than the configured one without regard to case, and also if the configured scheme
is not in lower case, however the text spells it. -/
theorem parse_wrongScheme_iff (spelled : Address.SpelledScheme scheme.toList)
    (read : ∃ located, address (scheme ++ "://" ++ rest) = .ok located) :
    (∃ failure, parse (scheme ++ "://" ++ rest) expected = .error failure ∧
      failure.code = "WRONG_SCHEME") ↔
      expected.toLower ≠ scheme.toLower ∨ expected.toLower ≠ expected := by
  rcases read with ⟨located, read⟩
  have judged : parse (scheme ++ "://" ++ rest) expected =
      ofAddress (scheme ++ "://" ++ rest) expected located := by
    rw [parse_eq_bind, read]
    rfl
  rw [judged, ofAddress_wrongScheme_iff, scheme_of_address spelled read]
  constructor
  · intro differ
    by_contra both
    simp only [not_or, not_not] at both
    exact differ (both.1.symm.trans both.2)
  · rintro differ rfl
    rcases differ with differ | differ
    · exact differ (toLower_toLower scheme)
    · exact differ (toLower_toLower scheme)

/-- A scheme in capital letters is the configured one in lower case, and is not when the configured
one has a capital letter itself. -/
theorem parse_wrongScheme_capitals :
    Address.SpelledScheme "NOTENIK".toList ∧
      (∃ located, address ("NOTENIK" ++ "://" ++ "prefs") = .ok located) ∧
      (¬ ∃ failure, parse ("NOTENIK" ++ "://" ++ "prefs") "notenik" = .error failure ∧
        failure.code = "WRONG_SCHEME") ∧
      ∃ failure, parse ("NOTENIK" ++ "://" ++ "prefs") "Notenik" = .error failure ∧
        failure.code = "WRONG_SCHEME" := by
  have spelled : Address.SpelledScheme "NOTENIK".toList :=
    ⟨⟨'N', rfl, rfl⟩, List.all_eq_true.mp rfl⟩
  have read : ∃ located, address ("NOTENIK" ++ "://" ++ "prefs") = .ok located := ⟨_, rfl⟩
  have capitals : "NOTENIK".toLower = "notenik" := by cbv
  have plain : "notenik".toLower = "notenik" := by cbv
  have mixed : "Notenik".toLower = "notenik" := by cbv
  refine ⟨spelled, read, ?_, ?_⟩
  · rw [parse_wrongScheme_iff spelled read, capitals, plain]
    decide
  · rw [parse_wrongScheme_iff spelled read, mixed]
    exact Or.inr (by decide)

/-- Whether a command is said to have the wrong scheme does depend on the case of the configured
scheme: a command that spells it just as it is configured is said to have another. -/
theorem not_parse_wrongScheme_regardless_of_case :
    ¬ ∀ scheme expected rest : String, Address.SpelledScheme scheme.toList →
      Address.SpelledScheme expected.toList →
      (∃ located, Address.parse (scheme ++ "://" ++ rest).toList = .ok located) →
      ((∃ failure, parse (scheme ++ "://" ++ rest) expected = .error failure ∧
        failure.code = "WRONG_SCHEME") ↔ expected.toLower ≠ scheme.toLower) := by
  intro regardless
  have spelled : Address.SpelledScheme "Notenik".toList :=
    ⟨⟨'N', rfl, rfl⟩, List.all_eq_true.mp rfl⟩
  have refused : parse ("Notenik" ++ "://" ++ "prefs") "Notenik" =
      .error (.wrongScheme "notenik") := rfl
  have matched := regardless "Notenik" "Notenik" "prefs" spelled spelled ⟨_, rfl⟩
  exact matched.mp ⟨_, refused, rfl⟩ rfl

end Command

end CommandUrl

import CommandUrl.Command
import CommandUrl.Proofs.Query

/-!
# Commands are read back

Whoever writes a command puts a scheme, a word and parameters together, and may
choose how to write the values. The command that is read is the one that was
written, whatever the values contain and however they were escaped. What has to
be escaped is what an address would take for something else: the separators, the
percent sign, what falls away inside an address, and a blank or control at its
end.
-/

namespace CommandUrl.Command

variable {scheme word raw : List Char} {parameters : List Parameter} {pieces : List (List Char)}

theorem clean_of_query {query : List Char} (plainScheme : Address.PlainScheme scheme)
    (plainWord : Address.PlainWord word) (counted : ∀ c ∈ query, Address.isIgnored c = false)
    (written : raw = scheme ++ ':' :: '/' :: '/' :: word ++ '?' :: query)
    (ends : ∀ last, raw.getLast? = some last → 0x20 < last.toNat) :
    Address.clean raw = raw := by
  refine Address.clean_of_kept ?_ ?_ ?_
  · rcases plainScheme.begins with ⟨first, rest, rfl, least, most⟩
    intro c same
    subst written
    simp only [List.cons_append, List.head?_cons, Option.some.injEq] at same
    subst same
    have least : 0x61 ≤ first.toNat := least
    simp only [Address.isTrimmed, decide_eq_false_iff_not]
    omega
  · intro c last
    have above := ends c last
    simp only [Address.isTrimmed, decide_eq_false_iff_not]
    omega
  · intro c mem
    subst written
    simp only [List.mem_append, List.mem_cons] at mem
    rw [Bool.eq_false_iff]
    intro ignored
    have low := Address.toNat_of_isIgnored ignored
    rcases mem with (inScheme | rfl | rfl | rfl | inWord) | rfl | inQuery
    · have bounds := Address.toNat_of_isPlainSchemeChar (plainScheme.chars c inScheme)
      omega
    · cases ignored
    · cases ignored
    · cases ignored
    · have bounds := Address.toNat_of_isWordChar (plainWord.chars c inWord)
      omega
    · cases ignored
    · rw [counted c inQuery] at ignored
      cases ignored

theorem clean_of_written (plainScheme : Address.PlainScheme scheme)
    (plainWord : Address.PlainWord word)
    (writes : List.Forall₂ Query.WritesParameter parameters pieces)
    (written : raw = scheme ++ ':' :: '/' :: '/' :: word ++ '?' :: Text.join '&' pieces)
    (ends : ∀ last, raw.getLast? = some last → 0x20 < last.toNat) :
    Address.clean raw = raw := by
  apply clean_of_query plainScheme plainWord _ written ends
  intro c mem
  rw [Bool.eq_false_iff]
  intro ignored
  exact Query.not_mem_of_writes writes (Or.inr ignored) mem

/-- Whatever is in its query, a command that was written under an ordinary scheme has the
parameters of the query after escaping. -/
theorem parse_of_query {scheme word raw : String} {query : List Char}
    (plainScheme : Address.PlainScheme scheme.toList) (plainWord : Address.PlainWord word.toList)
    (counted : ∀ c ∈ query, c ≠ '#' ∧ Address.isIgnored c = false)
    (written : raw.toList = scheme.toList ++ ':' :: '/' :: '/' :: word.toList ++ '?' :: query)
    (ends : ∀ last, raw.toList.getLast? = some last → 0x20 < last.toNat) :
    parse raw scheme = .ok
      { scheme, word,
        parameters := Query.parameters
          (Percent.encode (Address.escapedInQuery .ordinary) query) } := by
  have noHash : '#' ∉ query := fun mem => (counted '#' mem).1 rfl
  have cleaned : Address.clean raw.toList = raw.toList :=
    clean_of_query plainScheme plainWord (fun c mem => (counted c mem).2) written ends
  have located := Address.parse_plain plainScheme plainWord noHash written cleaned
  unfold parse address
  rw [located]
  simp [bind, Except.bind, pure, Except.pure]

/-- A command that was written under an ordinary scheme, with a word and parameters, is read as that
command. -/
theorem parse_written {scheme word raw : String} (plainScheme : Address.PlainScheme scheme.toList)
    (plainWord : Address.PlainWord word.toList)
    (writes : List.Forall₂ Query.WritesParameter parameters pieces)
    (written : raw.toList =
      scheme.toList ++ ':' :: '/' :: '/' :: word.toList ++ '?' :: Text.join '&' pieces)
    (ends : ∀ last, raw.toList.getLast? = some last → 0x20 < last.toNat) :
    parse raw scheme = .ok { scheme, word, parameters } := by
  have noHash : '#' ∉ Text.join '&' pieces := Query.not_mem_of_writes writes (Or.inl rfl)
  have cleaned : Address.clean raw.toList = raw.toList :=
    clean_of_written plainScheme plainWord writes written ends
  have located := Address.parse_plain plainScheme plainWord noHash written cleaned
  have read : address raw = .ok
      { scheme := scheme.toList, host := some word.toList,
        query := Percent.encode (Address.escapedInQuery .ordinary) (Text.join '&' pieces) } := by
    unfold address
    rw [located]
  unfold parse
  rw [read]
  simp [Query.parameters_of_writes writes, bind, Except.bind, pure, Except.pure]

/-- A value with a raw blank, a raw letter outside ASCII, and escapes in both cases. -/
theorem parse_written_title :
    parse "notenik://add?title=R \u00E9%26%c3%A9" "notenik" =
      .ok { scheme := "notenik", word := "add", parameters := [⟨"title", "R \u00E9&\u00E9"⟩] } := by
  have ampersand : Percent.Escapes [UInt8.ofNat (16 * 2 + 6)] ['%', '2', '6'] :=
    .cons rfl rfl .nil
  have accented : Percent.Escapes [UInt8.ofNat (16 * 12 + 3), UInt8.ofNat (16 * 10 + 9)]
      ['%', 'c', '3', '%', 'A', '9'] :=
    .cons rfl rfl (.cons rfl rfl .nil)
  have value : Query.Writes ['R', ' ', '\u00E9', '&', '\u00E9']
      ('R' :: ' ' :: '\u00E9' :: (['%', '2', '6'] ++ (['%', 'c', '3', '%', 'A', '9'] ++ []))) :=
    .raw rfl (.raw rfl (.raw rfl (.escaped ampersand (.escaped accented .nil))))
  have parameter : Query.WritesParameter ⟨"title", "R \u00E9&\u00E9"⟩
      "title=R \u00E9%26%c3%A9".toList :=
    ⟨List.all_eq_true.mp rfl, _, value, rfl⟩
  have scheme : Address.PlainScheme "notenik".toList :=
    ⟨⟨'n', "otenik".toList, rfl, by decide, by decide⟩, List.all_eq_true.mp rfl, rfl⟩
  have word : Address.PlainWord "add".toList := ⟨by decide, List.all_eq_true.mp rfl⟩
  exact parse_written scheme word (.cons parameter .nil) rfl (by rintro last ⟨⟩; decide)

end CommandUrl.Command

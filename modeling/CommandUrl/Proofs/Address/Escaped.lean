import CommandUrl.Command
import CommandUrl.Proofs.Address.Ordinary
import Mathlib.Data.Option.Basic

/-!
# Escaping makes no commands

A text that cannot be read as an address may well be readable once it has been
escaped: a bracket or a blank in the host is in the way raw and is not in the way
escaped. But then there are escapes in what is read as the host, and the host is
no word. Where it is a word, the word was there before, because the delimiters of
an address are not escaped and fall in the same places; so was the port after it,
and credentials do not matter. Such a text can be read as it stands.

Text with a number sign is another matter. The sign ends an authority, and
escaping takes it out of the way.
-/

namespace CommandUrl.Address

open Command (escapedOnRetry)

section Characters

variable {text : List Char} {c : Char}

/-- What escaping leaves is ASCII and can be seen, and is no delimiter that was escaped. -/
theorem toNat_of_mem_escaped (mem : c ∈ Percent.encode escapedOnRetry text) :
    0x20 < c.toNat ∧ c.toNat < 0x7F ∧ c ≠ '[' ∧ c ≠ '\\' := by
  rcases Percent.kept_of_mem_encode mem with ⟨ascii, kept⟩ | escape
  · simp only [escapedOnRetry, Percent.isControl, Bool.or_eq_false_iff,
      decide_eq_false_iff_not] at kept
    have notBlank : c.toNat ≠ 0x20 := by
      intro same
      have blank : c = ' ' := Char.toNat_inj.mp same
      simp [blank] at kept
    refine ⟨by omega, by omega, ?_, ?_⟩
    · rintro rfl
      simp at kept
    · rintro rfl
      simp at kept
  · have bounds := Percent.toNat_of_isEscapeChar escape
    refine ⟨by omega, by omega, ?_, ?_⟩
    · rintro rfl
      revert bounds
      decide
    · rintro rfl
      revert bounds
      decide

theorem clean_escaped (text : List Char) :
    clean (Percent.encode escapedOnRetry text) = Percent.encode escapedOnRetry text := by
  have visible : ∀ c ∈ Percent.encode escapedOnRetry text, 0x20 < c.toNat :=
    fun c mem => (toNat_of_mem_escaped mem).1
  refine clean_of_kept ?_ ?_ ?_
  · exact fun c head => isTrimmed_of_lt (visible c (List.mem_of_mem_head? head))
  · exact fun c last => isTrimmed_of_lt (visible c (List.mem_of_mem_getLast? last))
  · exact fun c mem => isIgnored_of_lt (visible c mem)

end Characters

section Authorities

variable {text authority tail word : List Char}

theorem eq_of_ordinaryHost? (kept : ∀ c ∈ text, 0x20 < c.toNat ∧ c.toNat < 0x7F)
    (unbracketed : '[' ∉ text) (read : ordinaryHost? text = some word) : text = word := by
  have plain : text.head? ≠ some '[' := fun head => unbracketed (List.mem_of_mem_head? head)
  have same : Percent.encode Percent.isControl text = text := by
    apply Percent.encode_of_kept
    intro c mem
    have bounds := kept c mem
    simp only [Percent.isControl, Bool.or_eq_false_iff, decide_eq_false_iff_not]
    omega
  rw [ordinaryHost?, if_neg plain, same] at read
  split at read
  · cases read
  · exact Option.some.inj read

/-- Where an authority has a host, it is there after the credentials, if any, and before a port. -/
theorem place_of_authorityHost?
    (located : authorityHost? .ordinary authority tail = some (some word)) :
    ∃ place, (Text.cutLast? '@' authority = none ∧ authority = place ∨
        ∃ credentials, Text.cutLast? '@' authority = some (credentials, place)) ∧
      ordinaryHost? (cutPort false place).1 = some word ∧
      acceptsPort (cutPort false place).2 := by
  unfold authorityHost? at located
  rcases cut : Text.cutLast? '@' authority with _ | ⟨credentials, place⟩
  all_goals
    simp only [cut, Option.bind_eq_bind, Option.bind_eq_some_iff] at located
    rcases located with ⟨_, _, located⟩
    split at located
    · simp [Option.bind_eq_some_iff] at located
    simp only [Option.bind_eq_some_iff, Option.guard_eq_some'] at located
    rcases located with ⟨_, accepted, host, read, same⟩
    cases same
    refine ⟨_, ?_, read, accepted⟩
  · exact Or.inl ⟨rfl, rfl⟩
  · exact Or.inr ⟨credentials, rfl⟩

theorem plainPort_of_acceptsPort {port : List Char} (accepted : acceptsPort port)
    (noBackslash : '\\' ∉ port) (colon : ∀ c, port.head? = some c → c = ':') : PlainPort port := by
  cases port with
  | nil => exact .absent
  | cons c digits =>
      have same : c = ':' := colon c rfl
      subst same
      simp only [acceptsPort, Bool.and_eq_true, decide_eq_true_eq] at accepted
      rcases accepted with ⟨small, ended⟩
      -- what follows the digits would have to start with a backslash
      have all : digits.dropWhile Text.isDigit = [] := by
        rcases rest : digits.dropWhile Text.isDigit with _ | ⟨other, others⟩
        · rfl
        · have inside : other ∈ digits := by
            apply (List.dropWhile_sublist Text.isDigit).subset
            rw [rest]
            exact List.mem_cons_self
          rw [rest] at ended
          have backslash : other = '\\' := by simpa using ended
          exact absurd (List.mem_cons_of_mem ':' (backslash ▸ inside)) noBackslash
      rw [List.dropWhile_eq_nil_iff] at all
      rw [List.takeWhile_eq_self_iff.mpr all] at small
      exact .digits all small

/-- A place that has a word for its host once it is escaped is that word and a port. -/
theorem place_of_escaped {place : List Char} (plain : PlainWord word)
    (read : ordinaryHost? (cutPort false (Percent.encode escapedOnRetry place)).1 = some word)
    (accepted : acceptsPort (cutPort false (Percent.encode escapedOnRetry place)).2) :
    ∃ port, PlainPort port ∧ place = word ++ port := by
  have unbracketed : '[' ∉ Percent.encode escapedOnRetry place :=
    fun mem => (toNat_of_mem_escaped mem).2.2.1 rfl
  have noBackslash : '\\' ∉ Percent.encode escapedOnRetry place :=
    fun mem => (toNat_of_mem_escaped mem).2.2.2 rfl
  rw [cutPort_of_unbracketed unbracketed] at read accepted
  have whole := List.takeWhile_append_dropWhile (p := (· != ':'))
    (l := Percent.encode escapedOnRetry place)
  have inHost := (List.takeWhile_prefix (· != ':')
    (l := Percent.encode escapedOnRetry place)).subset
  have inPort := (List.dropWhile_suffix (· != ':')
    (l := Percent.encode escapedOnRetry place)).subset
  have same : (Percent.encode escapedOnRetry place).takeWhile (· != ':') = word := by
    refine eq_of_ordinaryHost? ?_ (fun mem => unbracketed (inHost mem)) read
    intro c mem
    have bounds := toNat_of_mem_escaped (inHost mem)
    exact ⟨bounds.1, bounds.2.1⟩
  have begun := List.head?_dropWhile_not (· != ':') (Percent.encode escapedOnRetry place)
  rw [same] at whole
  generalize (Percent.encode escapedOnRetry place).dropWhile (· != ':') = port at *
  have plainPort : PlainPort port := by
    refine plainPort_of_acceptsPort accepted (fun mem => noBackslash (inPort mem)) ?_
    intro c head
    rw [head] at begun
    simpa using begun
  -- neither the word nor the port has an escape, so all of the place was there before
  have unescaped : '%' ∉ word ++ port := not_mem_place plain plainPort (by decide) (by decide)
  have split : Percent.encode escapedOnRetry place = (word ++ port) ++ [] := by
    rw [List.append_nil, whole]
  rcases Percent.split_of_encode split unescaped with ⟨rest, rfl, nothing⟩
  refine ⟨port, plainPort, ?_⟩
  rw [Percent.eq_nil_of_encode nothing, List.append_nil]

/-- An authority that has a word for its host once it is escaped had it before. -/
theorem authority_of_escaped (plain : PlainWord word)
    (located : authorityHost? .ordinary (Percent.encode escapedOnRetry authority) tail =
      some (some word)) :
    ∃ port, PlainPort port ∧ (authority = word ++ port ∨
      ∃ credentials, authority = credentials ++ '@' :: (word ++ port)) := by
  rcases place_of_authorityHost? located with ⟨place, chosen, read, accepted⟩
  rw [Text.cutLast?_encode rfl rfl] at chosen
  rcases chosen with ⟨_, rfl⟩ | ⟨credentials, cut⟩
  · rcases place_of_escaped plain read accepted with ⟨port, plainPort, rfl⟩
    exact ⟨port, plainPort, Or.inl rfl⟩
  · rcases Option.map_eq_some_iff.mp cut with ⟨⟨before, after⟩, found, same⟩
    cases same
    rcases place_of_escaped plain read accepted with ⟨port, plainPort, rfl⟩
    exact ⟨port, plainPort, Or.inr ⟨before, Text.eq_of_cutLast? found⟩⟩

end Authorities

section Parse

variable {raw authority rest tail word : List Char}

/-- The part of an authority before its place loses characters, the place does not. -/
theorem filter_authority (plain : PlainWord word) {port : List Char} (plainPort : PlainPort port)
    (placed : authority = word ++ port ∨
      ∃ credentials, authority = credentials ++ '@' :: (word ++ port)) (tail : List Char) :
    authorityHost? .ordinary (authority.filter (!isIgnored ·)) tail = some (some word) := by
  have kept : (word ++ port).filter (!isIgnored ·) = word ++ port := by
    apply filter_of_kept
    intro c mem
    have high := toNat_of_mem_place plain plainPort mem
    exact isIgnored_of_lt (by omega)
  rcases placed with rfl | ⟨credentials, rfl⟩
  · rw [kept]
    exact authorityHost?_plain plain plainPort tail
  · have atSign : isIgnored '@' = false := by decide
    rw [List.filter_append, List.filter_cons, atSign, kept]
    exact authorityHost?_credited plain plainPort _ tail

/-- What is read of an address under an ordinary scheme that has a host, and what it is read from. -/
theorem written_of_parse {text : List Char} {address : Address} (cleaned : clean text = text)
    (read : parse text = .ok address) (ordinary : SchemeKind.of address.scheme = .ordinary)
    (hosted : address.host = some word) :
    ∃ letters rest, (∃ first, letters.head? = some first ∧ Text.isAsciiLetter first) ∧
      (∀ c ∈ letters, isSchemeChar c) ∧ address.scheme = letters.map Char.toLower ∧
      text = letters ++ [':', '/', '/'] ++ rest ∧
      authorityHost? .ordinary (splitAuthority .ordinary rest).1 (splitAuthority .ordinary rest).2 =
        some (some word) := by
  rw [parse, cleaned] at read
  split at read
  · cases read
  · next scheme rest split =>
      dsimp only at read
      rcases letters_of_splitScheme? split with ⟨letters, letter, inside, lowered, rfl⟩
      split at read
      · cases read
      · next host tail located =>
          cases read
          dsimp only at ordinary hosted ⊢
          rw [ordinary, hosted] at located
          unfold locate? at located
          dsimp only at located
          split at located
          · next rest =>
              rcases Option.map_eq_some_iff.mp located with ⟨found, authorized, same⟩
              cases same
              exact ⟨letters, rest, letter, inside, lowered, by simp, authorized⟩
          · cases located

theorem parse_of_written {letters : List Char}
    (letter : ∃ first, letters.head? = some first ∧ Text.isAsciiLetter first)
    (inside : ∀ c ∈ letters, isSchemeChar c)
    (ordinary : SchemeKind.of (letters.map Char.toLower) = .ordinary)
    (written : clean raw = letters ++ [':', '/', '/'] ++ rest)
    (located : authorityHost? .ordinary (splitAuthority .ordinary rest).1
      (splitAuthority .ordinary rest).2 = some (some word)) :
    parse raw = .ok
      { scheme := letters.map Char.toLower, host := some word,
        query := queryOf .ordinary (splitAuthority .ordinary rest).2 } := by
  have split : splitScheme? (clean raw) =
      some (letters.map Char.toLower, '/' :: '/' :: rest) := by
    rw [written, List.append_assoc]
    exact splitScheme?_append letter inside _
  simp only [parse, split, ordinary, locate?, located, Option.map_some]

theorem splitAuthority_escaped (noHash : '#' ∉ rest) :
    splitAuthority .ordinary (Percent.encode escapedOnRetry rest) =
      (Percent.encode escapedOnRetry (splitAuthority .ordinary rest).1,
        Percent.encode escapedOnRetry (splitAuthority .ordinary rest).2) := by
  have goesOn : ∀ c, Percent.isEscapeChar c → (!endsAuthority .ordinary c) = true := by
    intro c escape
    have bounds := Percent.toNat_of_isEscapeChar escape
    simp only [endsAuthority, Bool.not_eq_true', Bool.or_eq_false_iff, decide_eq_false_iff_not]
    refine ⟨⟨⟨?_, ?_⟩, ?_⟩, by simp⟩
    all_goals
      rintro rfl
      revert bounds
      decide
  have kept : ∀ c ∈ rest, (!endsAuthority .ordinary c) = false →
      Percent.encodeChar escapedOnRetry c = [c] := by
    intro c mem ends
    simp only [endsAuthority, Bool.not_eq_false', Bool.or_eq_true, decide_eq_true_eq] at ends
    rcases ends with ((rfl | rfl) | rfl) | backslash
    · rfl
    · rfl
    · exact absurd mem noHash
    · simp at backslash
  rcases Percent.takeWhile_encode goesOn kept with ⟨taken, dropped⟩
  simp only [splitAuthority, taken, dropped]

theorem isTrimmed_of_endsAuthority {c : Char} (ends : endsAuthority .ordinary c) :
    isTrimmed c = false := by
  simp only [endsAuthority, Bool.or_eq_true, decide_eq_true_eq] at ends
  rcases ends with ((rfl | rfl) | rfl) | backslash
  · rfl
  · rfl
  · rfl
  · simp at backslash

theorem head?_settle (begun : ∀ c, tail.head? = some c → isTrimmed c = false) :
    (settle tail).head? = tail.head? := by
  cases tail with
  | nil => rfl
  | cons c tail =>
      have visible : isTrimmed c = false := begun c rfl
      have counted : isIgnored c = false := by
        apply isIgnored_of_lt
        simpa [isTrimmed] using visible
      have first : settle ([c] ++ tail) = [c].filter (!isIgnored ·) ++ settle tail :=
        settle_append (by simpa using visible) tail
      rw [List.singleton_append] at first
      rw [first]
      simp [counted]

theorem isTrimmed_of_placed (plain : PlainWord word) {port : List Char} (plainPort : PlainPort port)
    (placed : authority = word ++ port ∨
      ∃ credentials, authority = credentials ++ '@' :: (word ++ port)) :
    ∀ c, authority.getLast? = some c → isTrimmed c = false := by
  intro c last
  have lastInPlace : (word ++ port).getLast? = some c := by
    rcases placed with rfl | ⟨credentials, rfl⟩
    · exact last
    · rcases ends : (word ++ port).getLast? with _ | other
      · exact absurd (List.getLast?_eq_none_iff.mp ends) (by simp [plain.nonempty])
      · rw [List.append_cons, List.getLast?_append, ends] at last
        exact last
  have high := toNat_of_mem_place plain plainPort (List.mem_of_getLast? lastInPlace)
  exact isTrimmed_of_lt (by omega)

/-- A text that names a word under an ordinary scheme once it is escaped can be read as it stands,
and names that word under that scheme. -/
theorem parse_of_escaped {address : Address} (noHash : '#' ∉ raw) (plain : PlainWord word)
    (read : parse (Percent.encode escapedOnRetry raw) = .ok address)
    (ordinary : SchemeKind.of address.scheme = .ordinary) (hosted : address.host = some word) :
    ∃ query, parse raw = .ok { scheme := address.scheme, host := some word, query } := by
  rcases written_of_parse (clean_escaped raw) read ordinary hosted with
    ⟨letters, escapedRest, letter, inside, lowered, written, located⟩
  rw [lowered] at ordinary ⊢
  have visible : ∀ c ∈ letters ++ [':', '/', '/'], 0x2B ≤ c.toNat := by
    intro c mem
    simp only [List.mem_append, List.mem_cons, List.not_mem_nil, or_false] at mem
    rcases mem with inLetters | rfl | rfl | rfl
    · exact (toNat_of_isSchemeChar (inside c inLetters)).1
    all_goals decide
  -- scheme and slashes have no escapes, so the text starts with them as it stands
  have unescaped : '%' ∉ letters ++ [':', '/', '/'] := by
    intro mem
    exact absurd (visible '%' mem) (by decide)
  rcases Percent.split_of_encode written unescaped with ⟨rest, rfl, rfl⟩
  have noHashInRest : '#' ∉ rest := fun mem => noHash (List.mem_append_right _ mem)
  rw [splitAuthority_escaped noHashInRest] at located
  rcases authority_of_escaped plain located with ⟨port, plainPort, placed⟩
  have whole : (splitAuthority .ordinary rest).1 ++ (splitAuthority .ordinary rest).2 = rest :=
    List.takeWhile_append_dropWhile
  have within : ∀ c ∈ (splitAuthority .ordinary rest).1, endsAuthority .ordinary c = false := by
    intro c mem
    simpa using List.mem_takeWhile_imp mem
  have ended : ∀ c, (splitAuthority .ordinary rest).2.head? = some c →
      endsAuthority .ordinary c := by
    intro c head
    have stops := List.head?_dropWhile_not (!endsAuthority .ordinary ·) rest
    rw [splitAuthority] at head
    rw [head] at stops
    simpa using stops
  generalize (splitAuthority .ordinary rest).1 = authority at *
  generalize (splitAuthority .ordinary rest).2 = tail at *
  subst whole
  -- neither the scheme nor the place loses anything, and the delimiter after the place stays
  have cleaned : clean (letters ++ [':', '/', '/'] ++ (authority ++ tail)) =
      letters ++ [':', '/', '/'] ++ (authority.filter (!isIgnored ·) ++ settle tail) := by
    have counted : ∀ c ∈ letters ++ [':', '/', '/'], isIgnored c = false := by
      intro c mem
      have high := visible c mem
      exact isIgnored_of_lt (by omega)
    rw [clean_eq_settle, settle_append, settle_append (isTrimmed_of_placed plain plainPort placed),
      filter_of_kept counted]
    · intro c last
      have high := visible c (List.mem_of_getLast? last)
      exact isTrimmed_of_lt (by omega)
    · intro c head
      rcases letter with ⟨first, begins, _⟩
      rw [List.head?_append, List.head?_append, begins, Option.some_or, Option.some_or] at head
      have high := visible c (List.mem_append_left _ (List.mem_of_mem_head? (begins.trans head)))
      exact isTrimmed_of_lt (by omega)
  refine ⟨_, parse_of_written letter inside ordinary cleaned ?_⟩
  rw [splitAuthority_append]
  · exact filter_authority plain plainPort placed _
  · exact fun c mem => within c (List.mem_filter.mp mem).1
  · intro c head
    rw [head?_settle fun c head => isTrimmed_of_endsAuthority (ended c head)] at head
    exact ended c head

end Parse

end CommandUrl.Address

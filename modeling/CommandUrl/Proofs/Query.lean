import CommandUrl.Proofs.Address.Ordinary
import CommandUrl.Proofs.Text.Split
import CommandUrl.Query
import Mathlib.Data.List.Forall2

/-!
# Queries are read back

A list of parameters may be written as a query in many ways, since most
characters of a value may stand there raw or escaped. Reading any of them gives
the list back, although the address has escaped once more whatever may not stand
in a query raw: it leaves the separators where they are, and a value is decoded
to the same text whether the address or the writer has escaped a character.
-/

namespace CommandUrl.Query

open Percent

/-- A character that a value may only have escaped. -/
def isReserved (c : Char) : Bool :=
  c = '%' || c = '&' || c = '=' || c = '#' || c = '\t' || c = '\n' || c = '\r'

/-- The value is written in this way: each of its characters raw, if it may be, or as the escapes of
its bytes in UTF-8. -/
inductive Writes : List Char → List Char → Prop where
  | nil : Writes [] []
  | raw {c : Char} {value written : List Char} (free : isReserved c = false)
      (rest : Writes value written) : Writes (c :: value) (c :: written)
  | escaped {c : Char} {value escape written : List Char}
      (escapes : Escapes (String.utf8EncodeChar c) escape) (rest : Writes value written) :
      Writes (c :: value) (escape ++ written)

/-- A character that a label may have: printable, and neither a separator nor escaped in a query. -/
def isLabelChar (c : Char) : Bool :=
  0x20 < c.toNat && c.toNat < 0x7F && c != '&' && c != '=' && c != '#' && c != '"' && c != '<' &&
    c != '>'

/-- The parameter is written in this way: its label as it stands, and its value after an equals
sign. -/
def WritesParameter (parameter : Parameter) (piece : List Char) : Prop :=
  (∀ c ∈ parameter.label.toList, isLabelChar c) ∧
    ∃ written, Writes parameter.value.toList written ∧
      piece = parameter.label.toList ++ '=' :: written

section Characters

variable {c : Char}

theorem kept_of_printable (least : 0x20 < c.toNat) (most : c.toNat < 0x7F) (noQuote : c ≠ '"')
    (noHash : c ≠ '#') (noLess : c ≠ '<') (noGreater : c ≠ '>') :
    c.toNat < 0x80 ∧ Address.escapedInQuery .ordinary c = false := by
  have noControl : isControl c = false := by
    simp only [isControl, Bool.or_eq_false_iff, decide_eq_false_iff_not]
    omega
  have noBlank : c ≠ ' ' := by
    rintro rfl
    exact absurd least (by decide)
  refine ⟨by omega, ?_⟩
  simp [Address.escapedInQuery, noControl, noBlank, noQuote, noHash, noLess, noGreater]

theorem kept_of_isEscapeChar (escape : isEscapeChar c) :
    c.toNat < 0x80 ∧ Address.escapedInQuery .ordinary c = false := by
  have bounds := toNat_of_isEscapeChar escape
  apply kept_of_printable
  · omega
  · omega
  · exact Address.ne_of_class escape (by decide)
  · exact Address.ne_of_class escape (by decide)
  · exact Address.ne_of_class escape (by decide)
  · exact Address.ne_of_class escape (by decide)

theorem kept_of_isLabelChar (label : isLabelChar c) :
    c.toNat < 0x80 ∧ Address.escapedInQuery .ordinary c = false := by
  simp only [isLabelChar, Bool.and_eq_true, decide_eq_true_eq, bne_iff_ne, ne_eq] at label
  rcases label with ⟨⟨⟨⟨⟨⟨⟨least, most⟩, _⟩, _⟩, noHash⟩, noQuote⟩, noLess⟩, noGreater⟩
  exact kept_of_printable least most noQuote noHash noLess noGreater

end Characters

section Values

variable {value written : List Char}

/-- A written value stands for the value after the address has escaped it once more. -/
theorem spells_of_writes (writes : Writes value written) :
    Spells (Utf8.encode value) (encode (Address.escapedInQuery .ordinary) written) := by
  induction writes with
  | nil => exact Spells.nil
  | @raw c value written free _ ih =>
      have plain : c ≠ '%' := by
        rintro rfl
        exact absurd free (by decide)
      rw [Utf8.encode_cons, encode_cons]
      exact (Spells.encodeChar _ plain).append ih
  | @escaped c value escape written escapes _ ih =>
      have kept : encode (Address.escapedInQuery .ordinary) escape = escape :=
        encode_of_kept fun other mem =>
          kept_of_isEscapeChar (isEscapeChar_of_escapes escapes other mem)
      rw [Utf8.encode_cons, Utf8.encodeChar_eq, encode_append, kept]
      exact (Spells.of_escapes escapes).append ih

theorem isEscapeChar_of_writes {c : Char} (writes : Writes value written)
    (reserved : isReserved c) (mem : c ∈ written) : isEscapeChar c := by
  induction writes with
  | nil => simp at mem
  | raw free _ ih =>
      rcases List.mem_cons.mp mem with rfl | later
      · rw [free] at reserved
        cases reserved
      · exact ih later
  | escaped escapes _ ih =>
      rcases List.mem_append.mp mem with here | later
      · exact isEscapeChar_of_escapes escapes c here
      · exact ih later

end Values

section Parameters

variable {parameter : Parameter} {piece : List Char}

/-- What separates parameters, ends a query or falls away from an address is not in a written
parameter. -/
theorem not_mem_of_writesParameter (writes : WritesParameter parameter piece) {c : Char}
    (reserved : isReserved c) (unescaped : isEscapeChar c = false) (distinct : c ≠ '=')
    (unlabelled : isLabelChar c = false) : c ∉ piece := by
  rcases writes with ⟨label, written, writes, rfl⟩
  intro mem
  rcases List.mem_append.mp mem with labelMem | mem
  · exact Address.ne_of_class (label c labelMem) unlabelled rfl
  · rcases List.mem_cons.mp mem with equals | valueMem
    · exact distinct equals
    · exact Address.ne_of_class (isEscapeChar_of_writes writes reserved valueMem) unescaped rfl

theorem parameter?_of_writes (writes : WritesParameter parameter piece) :
    parameter? (encode (Address.escapedInQuery .ordinary) piece) = some parameter := by
  rcases writes with ⟨label, written, writes, rfl⟩
  have labelKept : encode (Address.escapedInQuery .ordinary) parameter.label.toList =
      parameter.label.toList :=
    encode_of_kept fun c mem => kept_of_isLabelChar (label c mem)
  have equalsKept : encodeChar (Address.escapedInQuery .ordinary) '=' = ['='] := by decide
  have labelFree : '=' ∉ parameter.label.toList := by
    intro mem
    exact Address.ne_of_class (label '=' mem) (by decide) rfl
  have valueFree : '=' ∉ encode (Address.escapedInQuery .ordinary) written := by
    intro mem
    rcases mem_encode mem with mem | escape
    · exact absurd (isEscapeChar_of_writes writes (by decide) mem) (by decide)
    · exact absurd escape (by decide)
  have cut : Text.split '='
      (encode (Address.escapedInQuery .ordinary) (parameter.label.toList ++ '=' :: written)) =
        [parameter.label.toList, encode (Address.escapedInQuery .ordinary) written] := by
    rw [encode_append, encode_cons, equalsKept, labelKept, List.singleton_append,
      Text.split_append labelFree, Text.split_of_not_mem valueFree]
  simp only [parameter?, cut, (spells_of_writes writes).decode?, Option.map_some,
    String.ofList_toList]

end Parameters

section Lists

variable {parameters : List Parameter} {pieces : List (List Char)}

theorem writes_of_mem (writes : List.Forall₂ WritesParameter parameters pieces)
    {piece : List Char} (mem : piece ∈ pieces) : ∃ parameter, WritesParameter parameter piece := by
  induction writes with
  | nil => simp at mem
  | cons first _ ih =>
      rcases List.mem_cons.mp mem with rfl | later
      · exact ⟨_, first⟩
      · exact ih later

theorem filterMap_of_writes (writes : List.Forall₂ WritesParameter parameters pieces) :
    (pieces.map (encode (Address.escapedInQuery .ordinary))).filterMap parameter? =
      parameters := by
  induction writes with
  | nil => rfl
  | cons first _ ih =>
      rw [List.map_cons, List.filterMap_cons_some (parameter?_of_writes first), ih]

/-- However a list of parameters is written, its query is read as that list. -/
theorem parameters_of_writes (writes : List.Forall₂ WritesParameter parameters pieces) :
    Query.parameters (encode (Address.escapedInQuery .ordinary) (Text.join '&' pieces)) =
      parameters := by
  have kept : encodeChar (Address.escapedInQuery .ordinary) '&' = ['&'] := by decide
  have absent : ∀ piece ∈ pieces.map (encode (Address.escapedInQuery .ordinary)), '&' ∉ piece := by
    intro encoded encodedMem mem
    rcases List.mem_map.mp encodedMem with ⟨piece, pieceMem, rfl⟩
    rcases writes_of_mem writes pieceMem with ⟨parameter, first⟩
    rcases mem_encode mem with raw | escape
    · exact not_mem_of_writesParameter first (by decide) (by decide) (by decide) (by decide) raw
    · exact absurd escape (by decide)
  rw [Text.encode_join kept]
  -- the empty query has one piece too, which is no parameter
  cases writes with
  | nil => rfl
  | cons first rest =>
      rw [Query.parameters, Text.split_join (by simp) absent]
      exact filterMap_of_writes (.cons first rest)

/-- A written query has no number sign in it, and nothing that falls away from an address. -/
theorem not_mem_of_writes (writes : List.Forall₂ WritesParameter parameters pieces) {c : Char}
    (foreign : c = '#' ∨ Address.isIgnored c) : c ∉ Text.join '&' pieces := by
  simp only [Address.isIgnored, Bool.or_eq_true, decide_eq_true_eq, or_assoc] at foreign
  have apart : isReserved c ∧ isEscapeChar c = false ∧ c ≠ '=' ∧ c ≠ '&' ∧
      isLabelChar c = false := by
    rcases foreign with rfl | rfl | rfl | rfl <;> decide
  rcases apart with ⟨reserved, unescaped, noEquals, noAmpersand, unlabelled⟩
  intro mem
  rcases Text.mem_join mem with separator | ⟨piece, pieceMem, inside⟩
  · exact noAmpersand separator
  · rcases writes_of_mem writes pieceMem with ⟨parameter, first⟩
    exact not_mem_of_writesParameter first reserved unescaped noEquals unlabelled inside

end Lists

end CommandUrl.Query

import CommandUrl.Proofs.Text.Split
import CommandUrl.Query

/-!
# Queries are read piece by piece

A query is cut at every ampersand, and each piece is read without regard to the
others. It makes one parameter or none. So a piece that is no parameter, in whatever
way it is malformed, takes nothing away from its neighbours and moves none of them.
-/

namespace CommandUrl.Query

variable {piece : List Char} {parameter : Parameter}

theorem parameters_append (left right : List Char) :
    parameters (left ++ '&' :: right) = parameters left ++ parameters right := by
  simp only [parameters, Text.split_separator, List.filterMap_append]

theorem parameters_join (pieces : List (List Char)) :
    parameters (Text.join '&' pieces) = pieces.flatMap parameters := by
  induction pieces with
  | nil => rfl
  | cons piece pieces ih =>
      cases pieces with
      | nil => simp [Text.join]
      | cons next pieces =>
          rw [Text.join_cons_of_ne_nil _ _ (by simp), parameters_append, ih]
          simp

theorem parameters_of_piece (alone : '&' ∉ piece) :
    parameters piece = (parameter? piece).toList := by
  simp only [parameters, Text.split_of_not_mem alone]
  cases read : parameter? piece with
  | none => simp [read]
  | some parameter => simp [read]

theorem parameter?_eq_some_iff :
    parameter? piece = some parameter ↔
      ∃ written, piece = parameter.label.toList ++ '=' :: written ∧ piece.count '=' = 1 ∧
        Percent.decode? written = some parameter.value.toList := by
  constructor
  · intro read
    simp only [parameter?] at read
    split at read
    · next label written pieces =>
        rcases Option.map_eq_some_iff.mp read with ⟨value, decoded, rfl⟩
        rcases Text.split_eq_pair_iff.mp pieces with ⟨whole, once⟩
        refine ⟨written, ?_, once, ?_⟩
        · simpa using whole
        · simpa using decoded
    · cases read
  · rintro ⟨written, whole, once, decoded⟩
    have pieces := Text.split_eq_pair_iff.mpr ⟨whole, once⟩
    simp [parameter?, pieces, decoded]

theorem parameter?_eq_none_iff :
    parameter? piece = none ↔
      piece.count '=' ≠ 1 ∨
        ∃ label written, piece = label ++ '=' :: written ∧ Percent.decode? written = none := by
  constructor
  · intro unread
    by_cases once : piece.count '=' = 1
    · right
      have mem : '=' ∈ piece := by
        apply List.count_pos_iff.mp
        omega
      rcases List.append_of_mem mem with ⟨label, written, whole⟩
      have pieces := Text.split_eq_pair_iff.mpr ⟨whole, once⟩
      refine ⟨label, written, whole, ?_⟩
      simpa [parameter?, pieces] using unread
    · exact Or.inl once
  · intro malformed
    rw [Option.eq_none_iff_forall_ne_some]
    intro parameter read
    rcases parameter?_eq_some_iff.mp read with ⟨value, whole, once, decoded⟩
    rcases malformed with several | ⟨label, written, other, undecoded⟩
    · exact several once
    · -- there is one equals sign only, so it is cut in one way
      have pieces := Text.split_eq_pair_iff.mpr ⟨whole, once⟩
      rw [Text.split_eq_pair_iff.mpr ⟨other, once⟩] at pieces
      cases pieces
      rw [decoded] at undecoded
      cases undecoded

theorem piece_of_mem_parameters {query : List Char} (mem : parameter ∈ parameters query) :
    ∃ encoded, parameter.label.toList ++ '=' :: encoded ∈ Text.split '&' query ∧
      Percent.decode? encoded = some parameter.value.toList := by
  rcases List.mem_filterMap.mp mem with ⟨piece, cut, read⟩
  rcases parameter?_eq_some_iff.mp read with ⟨encoded, rfl, _, decoded⟩
  exact ⟨encoded, cut, decoded⟩

/-- Reading a query that is put together from two is reading one after the other, and however many
pieces there are, each adds what it is by itself. A piece without an ampersand is one parameter if it
has one equals sign and what comes after the sign can be decoded; its label is what comes before the
sign, as it stands. Otherwise it is nothing. -/
theorem parameters_local (left right piece : List Char) (pieces : List (List Char)) :
    parameters (left ++ '&' :: right) = parameters left ++ parameters right ∧
    parameters (Text.join '&' pieces) = pieces.flatMap parameters ∧
    ('&' ∉ piece →
      (∀ label value, parameters piece = [⟨label, value⟩] ↔
        ∃ written, piece = label.toList ++ '=' :: written ∧ piece.count '=' = 1 ∧
          Percent.decode? written = some value.toList) ∧
      (parameters piece = [] ↔
        piece.count '=' ≠ 1 ∨
          ∃ label written, piece = label ++ '=' :: written ∧ Percent.decode? written = none)) := by
  refine ⟨parameters_append left right, parameters_join pieces, ?_⟩
  intro alone
  rw [parameters_of_piece alone]
  constructor
  · intro label value
    have read : parameter? piece = some ⟨label, value⟩ ↔ _ := parameter?_eq_some_iff
    rw [← read]
    cases parameter? piece with
    | none => simp
    | some parameter => simp
  · rw [← parameter?_eq_none_iff]
    cases parameter? piece with
    | none => simp
    | some parameter => simp

/-- Between two parameters, a value that cannot be decoded, a label without a value and a sign too
many make no difference. -/
theorem parameters_local_malformed :
    '&' ∉ "b=%zz".toList ∧ parameters "b=%zz".toList = [] ∧
      parameters "a=%31&b=%zz&flag&c=1=2&=".toList = [⟨"a", "1"⟩, ⟨"", ""⟩] := by
  have alone : '&' ∉ "b=%zz".toList := by decide
  rcases parameters_local "a=%31".toList "b=%zz&flag&c=1=2&=".toList "b=%zz".toList [] with
    ⟨whole, _, malformed⟩
  rcases parameters_local "b=%zz".toList "flag&c=1=2&=".toList "a=%31".toList [] with
    ⟨tail, _, proper⟩
  have nothing : parameters "b=%zz".toList = [] := by
    apply (malformed alone).2.mpr
    exact Or.inr ⟨['b'], "%zz".toList, rfl, rfl⟩
  have first : parameters "a=%31".toList = [⟨"a", "1"⟩] := by
    apply ((proper (by decide)).1 "a" "1").mpr
    exact ⟨"%31".toList, rfl, rfl, rfl⟩
  have rest : parameters "flag&c=1=2&=".toList = [⟨"", ""⟩] := by decide +kernel
  refine ⟨alone, nothing, whole.trans ?_⟩
  rw [first]
  refine congrArg _ (tail.trans ?_)
  rw [nothing, rest]
  rfl

end CommandUrl.Query

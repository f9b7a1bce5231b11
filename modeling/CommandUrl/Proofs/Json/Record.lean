import CommandUrl.Json.Record
import CommandUrl.Proofs.Json.Grammar
import Mathlib.Data.List.Nodup

/-!
# Records in any arrangement

An object means the same record whatever the order of its members and whatever
members of other names stand among them, and so do the objects that stand as
values in it. `Rearranged` is this freedom as a relation from a value to the
values that say the same; the foreign members may hold anything, but their names
are texts, since an object with a name that is none is refused as a whole. A
reader that gives one result for all of these values `Reads` the value. Where the
names of a record are distinct, each of its members is found in every
rearrangement of it, with a rearrangement of its value, and from there the
readers of the members take over.
-/

namespace CommandUrl.Json

mutual

/-- The other value says the same as a value: in its records the members may come in another order,
with members of other names among them. -/
inductive Rearranged : Json → Json → Prop
  | same (value : Json) : Rearranged value value
  | record {declared own others members : List (String × Json)}
      (held : RearrangedMembers declared own) (arranged : members.Perm (own ++ others))
      (foreign : ∀ other ∈ others, other.1 ∉ declared.map Prod.fst) :
      Rearranged (.record declared) (.record members)

/-- Members of the same names in the same order, whose values say the same. -/
inductive RearrangedMembers : List (String × Json) → List (String × Json) → Prop
  | nil : RearrangedMembers [] []
  | cons {name : String} {value other : Json} {declared own : List (String × Json)}
      (first : Rearranged value other) (rest : RearrangedMembers declared own) :
      RearrangedMembers ((name, value) :: declared) ((name, other) :: own)

end

theorem record_injective {members others : List (String × Json)}
    (same : record members = record others) : members = others := by
  have labelled : Function.Injective fun member : String × Json => (some member.1, member.2) := by
    rintro ⟨name, value⟩ ⟨other, content⟩ equal
    cases equal
    rfl
  simp only [record, Json.object.injEq] at same
  exact List.map_injective_iff.mpr labelled same

namespace RearrangedMembers

variable {declared own : List (String × Json)}

theorem refl (declared : List (String × Json)) : RearrangedMembers declared declared := by
  induction declared with
  | nil => exact .nil
  | cons member declared ih => exact .cons (.same member.2) ih

/-- The members go in pairs, under one name each. -/
theorem exists_pairs (held : RearrangedMembers declared own) :
    ∃ pairs : List (String × Json × Json),
      declared = pairs.map (fun pair => (pair.1, pair.2.1)) ∧
      own = pairs.map (fun pair => (pair.1, pair.2.2)) ∧
      ∀ pair ∈ pairs, Rearranged pair.2.1 pair.2.2 := by
  induction declared generalizing own with
  | nil =>
      cases held
      exact ⟨[], rfl, rfl, by simp⟩
  | cons member declared ih =>
      cases held with
      | cons first rest =>
          rcases ih rest with ⟨pairs, rfl, rfl, each⟩
          exact ⟨(_, _, _) :: pairs, rfl, rfl, List.forall_mem_cons.mpr ⟨first, each⟩⟩

theorem map_fst (held : RearrangedMembers declared own) :
    own.map Prod.fst = declared.map Prod.fst := by
  rcases held.exists_pairs with ⟨pairs, rfl, rfl, _⟩
  simp

theorem exists_own (held : RearrangedMembers declared own) {name : String} {value : Json}
    (mem : (name, value) ∈ declared) : ∃ other, (name, other) ∈ own ∧ Rearranged value other := by
  rcases held.exists_pairs with ⟨pairs, rfl, rfl, each⟩
  rcases List.mem_map.mp mem with ⟨pair, among, same⟩
  cases same
  exact ⟨pair.2.2, List.mem_map.mpr ⟨pair, among, rfl⟩, each pair among⟩

theorem exists_declared (held : RearrangedMembers declared own) {name : String} {other : Json}
    (mem : (name, other) ∈ own) : ∃ value, (name, value) ∈ declared ∧ Rearranged value other := by
  rcases held.exists_pairs with ⟨pairs, rfl, rfl, each⟩
  rcases List.mem_map.mp mem with ⟨pair, among, same⟩
  cases same
  exact ⟨pair.2.1, List.mem_map.mpr ⟨pair, among, rfl⟩, each pair among⟩

end RearrangedMembers

/-- A rearranged record is a record that holds the declared members and foreign ones. -/
theorem exists_of_rearranged_record {declared : List (String × Json)} {value : Json}
    (rearranged : Rearranged (record declared) value) :
    ∃ own others members, RearrangedMembers declared own ∧ members.Perm (own ++ others) ∧
      (∀ other ∈ others, other.1 ∉ declared.map Prod.fst) ∧ value = record members := by
  generalize form : record declared = whole at rearranged
  cases rearranged with
  | same =>
      exact ⟨declared, [], declared, .refl declared, by simp, by simp, form.symm⟩
  | record held arranged foreign =>
      cases record_injective form
      exact ⟨_, _, _, held, arranged, foreign, rfl⟩

section Members

variable {declared present own others members : List (String × Json)}

theorem memberNames_record (members : List (String × Json)) :
    memberNames (members.map fun (name, value) => (some name, value)) =
      .ok (members.map Prod.fst) := by
  induction members with
  | nil => rfl
  | cons member members ih =>
      unfold memberNames at ih ⊢
      rw [List.map_cons, List.mapM_cons, ih]
      rfl

/-- Of an object that repeats none of the names, the members of those names are what is read. -/
theorem members_record {names : List String}
    (once : ∀ name ∈ names, (members.map Prod.fst).count name ≤ 1) (needed : Nat)
    (expected : String) :
    Json.members names needed expected (record members) =
      .ok (members.filter fun member => names.contains member.1) := by
  have unrepeated :
      names.find? (fun name => decide (1 < (members.map Prod.fst).count name)) = none := by
    simpa using once
  have paired : (members.map Prod.fst).zip
      ((members.map fun (name, value) => (some name, value)).map Prod.snd) = members := by
    simp [List.zip_map', Function.comp_def]
  simp only [record, Json.members, memberNames_record, bind, Except.bind]
  rw [unrepeated, paired]

theorem filter_arranged (names : own.map Prod.fst = declared.map Prod.fst)
    (arranged : members.Perm (own ++ others))
    (foreign : ∀ other ∈ others, other.1 ∉ declared.map Prod.fst) :
    (members.filter fun member => (declared.map Prod.fst).contains member.1).Perm own := by
  have kept : (own.filter fun member => (declared.map Prod.fst).contains member.1) = own := by
    apply List.filter_eq_self.mpr
    intro member mem
    rw [← names, List.contains_iff_mem]
    exact List.mem_map_of_mem mem
  have dropped : (others.filter fun member => (declared.map Prod.fst).contains member.1) = [] := by
    apply List.filter_eq_nil_iff.mpr
    intro other mem
    rw [List.contains_iff_mem]
    exact foreign other mem
  have filtered := arranged.filter fun member => (declared.map Prod.fst).contains member.1
  rw [List.filter_append, kept, dropped, List.append_nil] at filtered
  exact filtered

theorem count_arranged (distinct : (declared.map Prod.fst).Nodup)
    (names : own.map Prod.fst = declared.map Prod.fst)
    (arranged : members.Perm (own ++ others))
    (foreign : ∀ other ∈ others, other.1 ∉ declared.map Prod.fst) :
    ∀ name ∈ declared.map Prod.fst, (members.map Prod.fst).count name ≤ 1 := by
  intro name mem
  have absent : name ∉ others.map Prod.fst := by
    intro among
    rcases List.mem_map.mp among with ⟨other, here, rfl⟩
    exact foreign other here mem
  rw [(arranged.map Prod.fst).count_eq, List.map_append, List.count_append, names,
    List.count_eq_zero_of_not_mem absent]
  exact List.nodup_iff_count_le_one.mp distinct name

theorem lookup_of_mem {name : String} {value : Json} (distinct : (members.map Prod.fst).Nodup)
    (mem : (name, value) ∈ members) : members.lookup name = some value := by
  rcases List.append_of_mem mem with ⟨before, after, rfl⟩
  rw [List.map_append, List.nodup_append] at distinct
  rw [List.lookup_eq_some_iff]
  refine ⟨before, after, rfl, ?_⟩
  intro other among
  have differs := distinct.2.2 other.1 (List.mem_map_of_mem among) name (by simp)
  simpa using differs.symm

/-- The members are the declared ones in some order, each with a value that says the same. -/
structure Provides (declared present : List (String × Json)) : Prop where
  names : (present.map Prod.fst).Perm (declared.map Prod.fst)
  found : ∀ name value, (name, value) ∈ declared →
    ∃ other, present.lookup name = some other ∧ Rearranged value other
  declared : ∀ name other, (name, other) ∈ present →
    ∃ value, (name, value) ∈ declared ∧ Rearranged value other

theorem Provides.of_perm (distinct : (declared.map Prod.fst).Nodup)
    (held : RearrangedMembers declared own) (arranged : present.Perm own) :
    Provides declared present := by
  have names : (present.map Prod.fst).Perm (declared.map Prod.fst) := by
    rw [← held.map_fst]
    exact arranged.map Prod.fst
  refine ⟨names, ?found, fun name other mem => held.exists_declared (arranged.mem_iff.mp mem)⟩
  case found =>
    intro name value mem
    rcases held.exists_own mem with ⟨other, among, rearranged⟩
    exact ⟨other, lookup_of_mem (names.nodup_iff.mpr distinct) (arranged.mem_iff.mpr among),
      rearranged⟩

/-- However a record of distinct names is rearranged, its own members are what is read of it. -/
theorem members_of_rearranged {names : List String} {value : Json} (distinct : names.Nodup)
    (rearranged : Rearranged (record declared) value) (declares : declared.map Prod.fst = names)
    (needed : Nat) (expected : String) :
    ∃ present, Json.members names needed expected value = .ok present ∧
      Provides declared present ∧ checkLength names value = .ok () := by
  subst declares
  rcases exists_of_rearranged_record rearranged with
    ⟨own, others, members, held, arranged, foreign, rfl⟩
  have once := count_arranged distinct held.map_fst arranged foreign
  have kept := filter_arranged held.map_fst arranged foreign
  exact ⟨_, members_record once needed expected, .of_perm distinct held kept, rfl⟩

end Members

/-- The reader gives the result for the value in every arrangement. -/
def Reads {α : Type} (read : Json → Except Mismatch α) (value : Json) (result : α) : Prop :=
  ∀ other, Rearranged value other → read other = .ok result

section Reading

variable {α : Type} {read : Json → Except Mismatch α} {value : Json} {result : α}

/-- A value that is no record has one arrangement. -/
theorem Reads.of_eq (plain : ∀ members, value ≠ record members) (reads : read value = .ok result) :
    Reads read value result := by
  intro other rearranged
  cases rearranged with
  | same => exact reads
  | record => exact absurd rfl (plain _)

theorem reads_text (content : String) : Reads toText (text content) content :=
  .of_eq (by simp [text, record]) rfl

theorem reads_optionalText (content : Option String) :
    Reads toOptionalText (optionalText content) content := by
  cases content with
  | none => exact .of_eq (by simp [optionalText, record]) rfl
  | some content => exact .of_eq (by simp [optionalText, text, record]) rfl

theorem reads_bool (switch : Bool) : Reads toBool (.bool switch) switch :=
  .of_eq (by simp [record]) rfl

theorem reads_natural {number : Nat} (fits : number < Nat.pow 2 64) :
    Reads toUnsigned (natural number) number := by
  refine .of_eq (by simp [natural, record]) ?_
  simp only [natural, toUnsigned, Number.unsigned?_ofNat fits]

theorem reads_texts (contents : List String) :
    Reads toTexts (.array (contents.map text)) contents := by
  refine .of_eq (by simp [record]) ?_
  induction contents with
  | nil => rfl
  | cons content contents ih =>
      simp only [toTexts] at ih ⊢
      rw [List.map_cons, List.mapM_cons, ih]
      rfl

theorem reads_name {ofName? : String → Option α} {name : String}
    (named : ofName? name = some result) : Reads (toName ofName?) (text name) result := by
  refine .of_eq (by simp [text, record]) ?_
  simp only [text, toName, named]

variable {declared present : List (String × Json)}

theorem Provides.required_eq (provides : Provides declared present) (name : String)
    (mem : (name, value) ∈ declared) (reads : Reads read value result) :
    required present name read = .ok result := by
  rcases provides.found name value mem with ⟨other, found, rearranged⟩
  rw [required, found]
  exact reads other rearranged

theorem Provides.defaulted_eq (provides : Provides declared present) (name : String)
    (mem : (name, value) ∈ declared) (reads : Reads read value result) (default : α) :
    defaulted present name read default = .ok result := by
  rcases provides.found name value mem with ⟨other, found, rearranged⟩
  rw [defaulted, found]
  exact reads other rearranged

end Reading

/-- Reads a text as a record. -/
def readAs? {α : Type} (read : Json → Except Mismatch α) (text : List Char) : Option α :=
  (parse? text).bind fun value => (read value).toOption

/-- The result comes back from the form that it is written in, and from every text of every
arrangement of that form. -/
structure ReadBack {α : Type} (read : Json → Except Mismatch α) (form : Json) (result : α) :
    Prop where
  written : readAs? read form.compact = some result
  arranged : ∀ other text, Rearranged form other → TextOf other text →
    readAs? read text = some result

theorem Reads.readBack {α : Type} {read : Json → Except Mismatch α} {form : Json} {result : α}
    (reads : Reads read form result) (written : Written form form.compact) :
    ReadBack read form result := by
  have arranged : ∀ other text, Rearranged form other → TextOf other text →
      readAs? read text = some result := by
    intro other text rearranged textOf
    rw [readAs?, parse?_of_textOf textOf, Option.bind_some, reads other rearranged]
    rfl
  exact ⟨arranged form form.compact (.same form) (padded_of_written written), arranged⟩

end CommandUrl.Json

import CommandUrl.Proofs.Json.Number
import CommandUrl.Proofs.Json.Pretty

/-!
# The texts of a value

A value has many texts: white space may stand around every value and every name,
and strings and numbers are written in more than one way. `TextOf` is the
grammar of all of them. It follows the value, so a text of an array holds a text
of each item and a text of an object holds one of each name and value, with the
signs between them.

Every text of a value is read as the value. The proof adds nothing to what is
known of tokens: a text spells the tokens of its value, and the tokens build the
value. The compact form is one of the texts.
-/

namespace CommandUrl.Json

/-- White space. -/
def Blank (text : List Char) : Prop :=
  ∀ c ∈ text, isSpace c

/-- White space around something written. -/
def Padded (written : List Char → Prop) (text : List Char) : Prop :=
  ∃ before inside after, Blank before ∧ written inside ∧ Blank after ∧
    text = before ++ inside ++ after

mutual

/-- The text is a way to write the value, with no white space around it. -/
def Written : Json → List Char → Prop
  | .null, text => text = ['n', 'u', 'l', 'l']
  | .bool true, text => text = ['t', 'r', 'u', 'e']
  | .bool false, text => text = ['f', 'a', 'l', 's', 'e']
  | .number value, text => value.Written text
  | .string literal, text => Literal literal text
  | .array items, text => ∃ inside, WrittenItems items inside ∧ text = '[' :: inside ++ [']']
  | .object members, text =>
    ∃ inside, WrittenMembers members inside ∧ text = '\x7b' :: inside ++ ['\x7d']

/-- The text is a way to write the items, with commas between them. -/
def WrittenItems : List Json → List Char → Prop
  | [], text => Blank text
  | [item], text => Padded (Written item) text
  | item :: next :: items, text =>
    ∃ first rest, Padded (Written item) first ∧ WrittenItems (next :: items) rest ∧
      text = first ++ ',' :: rest

/-- The text is a way to write the members, with commas between them. -/
def WrittenMembers : List (Option String × Json) → List Char → Prop
  | [], text => Blank text
  | [(name, value)], text =>
    ∃ label inside, Padded (Literal name) label ∧ Padded (Written value) inside ∧
      text = label ++ ':' :: inside
  | (name, value) :: next :: members, text =>
    ∃ label inside rest, Padded (Literal name) label ∧ Padded (Written value) inside ∧
      WrittenMembers (next :: members) rest ∧ text = label ++ ':' :: inside ++ ',' :: rest

end

/-- The text is a text of the value. -/
def TextOf (value : Json) (text : List Char) : Prop :=
  Padded (Written value) text

section Spelling

variable {tokens : List Token} {text : List Char}

theorem Spells.of_blank (space : Blank text) : Spells [] text := by
  have spelled : Spells [] (text ++ []) := .blanks space .nil
  rw [List.append_nil] at spelled
  exact spelled

theorem closes_of_blank {tail : List Char} (space : Blank text) (closes : Closes tail) :
    Closes (text ++ tail) := by
  cases text with
  | nil => exact closes
  | cons c text =>
      rintro other ⟨⟩
      have inside := space c List.mem_cons_self
      simp only [isSpace, Bool.or_eq_true, decide_eq_true_eq] at inside
      rcases inside with ((rfl | rfl) | rfl) | rfl <;> decide

theorem Spells.padded {written : List Char → Prop} (padded : Padded written text)
    (spells : ∀ inside, written inside → Spells tokens inside) : Spells tokens text := by
  rcases padded with ⟨before, inside, after, spaceBefore, wrote, spaceAfter, rfl⟩
  have spelled := (Spells.blanks spaceBefore (spells inside wrote)).append (.of_blank spaceAfter)
    fun tail closes => closes_of_blank spaceAfter closes
  rw [List.append_nil] at spelled
  exact spelled

theorem spells_literal {literal : Option String} (written : Literal literal text) :
    Spells [.scalar (.string literal)] text := by
  have spelled : Spells [.scalar (.string literal)] (text ++ []) := .literal written .nil
  rw [List.append_nil] at spelled
  exact spelled

theorem closes_sign {c : Char} (text tail : List Char) (sign : (punctuation? c).isSome) :
    Closes (c :: text ++ tail) := by
  rintro other ⟨⟩
  unfold punctuation? at sign
  split at sign <;> first | decide | cases sign

theorem spells_member {name : Option String} {label inside : List Char}
    (named : Padded (Literal name) label) (holds : Spells tokens inside) :
    Spells (.scalar (.string name) :: .colon :: tokens) (label ++ ':' :: inside) := by
  have begins : Spells [.scalar (.string name)] label := .padded named fun _ => spells_literal
  exact begins.append (.sign rfl holds) fun tail _ => closes_sign _ tail rfl

mutual

/-- However a value is written, the text spells its tokens. -/
theorem spells_written : (value : Json) → (text : List Char) → Written value text →
    Spells (tokensOf value) text
  | .null, _, written => written ▸ .word rfl
  | .bool true, _, written => written ▸ .word rfl
  | .bool false, _, written => written ▸ .word rfl
  | .number value, _, written => .number (Number.parse?_of_written written)
  | .string literal, _, written => spells_literal written
  | .array items, _, ⟨inside, written, same⟩ => by
      have body : Spells (tokensOfItems items ++ [.arrayEnd]) (inside ++ [']']) :=
        (spells_writtenItems items inside written).append (.sign rfl .nil)
          fun tail _ => closes_sign _ tail rfl
      rw [same, tokensOf]
      exact .sign rfl body
  | .object members, _, ⟨inside, written, same⟩ => by
      have body : Spells (tokensOfMembers members ++ [.objectEnd]) (inside ++ ['\x7d']) :=
        (spells_writtenMembers members inside written).append (.sign rfl .nil)
          fun tail _ => closes_sign _ tail rfl
      rw [same, tokensOf]
      exact .sign rfl body

theorem spells_writtenItems : (items : List Json) → (text : List Char) → WrittenItems items text →
    Spells (tokensOfItems items) text
  | [], _, space => .of_blank space
  | [item], _, padded => .padded padded (spells_written item)
  | item :: next :: items, _, ⟨first, rest, padded, written, same⟩ => by
      have begins : Spells (tokensOf item) first := .padded padded (spells_written item)
      have goesOn := spells_writtenItems (next :: items) rest written
      rw [same, tokensOfItems]
      exact begins.append (.sign rfl goesOn) fun tail _ => closes_sign _ tail rfl

theorem spells_writtenMembers : (members : List (Option String × Json)) → (text : List Char) →
    WrittenMembers members text → Spells (tokensOfMembers members) text
  | [], _, space => .of_blank space
  | [(name, value)], _, ⟨label, inside, named, padded, same⟩ => by
      have holds : Spells (tokensOf value) inside := .padded padded (spells_written value)
      rw [same, tokensOfMembers]
      exact spells_member named holds
  | (name, value) :: next :: members, _, ⟨label, inside, rest, named, padded, written, same⟩ => by
      have holds : Spells (tokensOf value) inside := .padded padded (spells_written value)
      have goesOn := spells_writtenMembers (next :: members) rest written
      rw [same, tokensOfMembers]
      exact (spells_member named holds).append (.sign rfl goesOn)
        fun tail _ => closes_sign _ tail rfl

end

/-- Every text of a value is read as the value. -/
theorem parse?_of_textOf {value : Json} (written : TextOf value text) :
    parse? text = some value := by
  have spelled : Spells (tokensOf value) text := .padded written (spells_written value)
  rw [parse?, spelled.tokens?_eq, Option.bind_some, ofTokens?_tokensOf]

end Spelling

section Compact

theorem padded_of_written {written : List Char → Prop} {text : List Char} (wrote : written text) :
    Padded written text :=
  ⟨[], text, [], by simp [Blank], wrote, by simp [Blank], by simp⟩

theorem writtenItems_compact {items : List Json}
    (each : ∀ item ∈ items, Written item item.compact) :
    WrittenItems items (compactItems items) := by
  induction items with
  | nil => simp [WrittenItems, compactItems, Blank]
  | cons item items ih =>
      have first : Padded (Written item) item.compact :=
        padded_of_written (each item List.mem_cons_self)
      have rest := ih fun other mem => each other (List.mem_cons_of_mem item mem)
      cases items with
      | nil => exact first
      | cons next items => exact ⟨_, _, first, rest, rfl⟩

theorem writtenMembers_compact {members : List Member}
    (each : ∀ member ∈ members, Written member.2 member.2.compact) :
    WrittenMembers members (compactMembers members) := by
  induction members with
  | nil => simp [WrittenMembers, compactMembers, Blank]
  | cons member members ih =>
      rcases member with ⟨name, value⟩
      have label : Padded (Literal name) (renderString name) :=
        padded_of_written (literal_renderString name)
      have first : Padded (Written value) value.compact :=
        padded_of_written (each (name, value) List.mem_cons_self)
      have rest := ih fun other mem => each other (List.mem_cons_of_mem _ mem)
      cases members with
      | nil => exact ⟨_, _, label, first, rfl⟩
      | cons next members => exact ⟨_, _, _, label, first, rest, by simp [compactMembers]⟩

theorem written_text (value : String) : Written (text value) (text value).compact :=
  literal_renderString (some value)

theorem written_optionalText (value : Option String) :
    Written (optionalText value) (optionalText value).compact := by
  cases value with
  | none => rfl
  | some value => exact written_text value

theorem written_bool (value : Bool) : Written (.bool value) (compact (.bool value)) := by
  cases value <;> rfl

theorem written_natural (value : Nat) : Written (natural value) (natural value).compact :=
  Number.written_ofNat value

theorem written_array {items : List Json} (each : ∀ item ∈ items, Written item item.compact) :
    Written (.array items) (compact (.array items)) :=
  ⟨_, writtenItems_compact each, rfl⟩

theorem written_record {members : List (String × Json)}
    (each : members.Forall fun member => Written member.2 member.2.compact) :
    Written (record members) (record members).compact := by
  refine ⟨_, writtenMembers_compact ?_, rfl⟩
  intro member mem
  rcases List.mem_map.mp mem with ⟨⟨name, value⟩, declared, rfl⟩
  exact List.forall_iff_forall_mem.mp each (name, value) declared

end Compact

end CommandUrl.Json

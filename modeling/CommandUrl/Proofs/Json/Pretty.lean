import CommandUrl.Json.Reader
import CommandUrl.Proofs.Json.Spelling

/-!
# Pretty JSON is read back

Between a value and its text stand its tokens. The text spells them, however it
is laid out, and the reader builds the value from them. The two halves do not
know of each other, so another layout would only need the first one again.
-/

namespace CommandUrl.Json

mutual

/-- The tokens of a value. -/
def tokensOf : Json → List Token
  | .array items => .arrayStart :: tokensOfItems items ++ [.arrayEnd]
  | .object members => .objectStart :: tokensOfMembers members ++ [.objectEnd]
  | .null => [.scalar .null]
  | .bool value => [.scalar (.bool value)]
  | .number value => [.scalar (.number value)]
  | .string text => [.scalar (.string text)]

/-- The tokens of items, with commas between them. -/
def tokensOfItems : List Json → List Token
  | [] => []
  | [item] => tokensOf item
  | item :: next :: items => tokensOf item ++ .comma :: tokensOfItems (next :: items)

/-- The tokens of members, with commas between them. -/
def tokensOfMembers : List (Option String × Json) → List Token
  | [] => []
  | [(name, value)] => .scalar (.string name) :: .colon :: tokensOf value
  | (name, value) :: next :: members =>
    .scalar (.string name) :: .colon :: tokensOf value ++ .comma :: tokensOfMembers (next :: members)

end

mutual

/-- Every number in the value is read back as it is written. -/
def Faithful : Json → Prop
  | .number value => Number.parse? value.render = some value
  | .array items => FaithfulItems items
  | .object members => FaithfulMembers members
  | .null | .bool _ | .string _ => True

/-- Every number in the items is read back. -/
def FaithfulItems : List Json → Prop
  | [] => True
  | item :: items => Faithful item ∧ FaithfulItems items

/-- Every number in the members is read back. -/
def FaithfulMembers : List (Option String × Json) → Prop
  | [] => True
  | (_, value) :: members => Faithful value ∧ FaithfulMembers members

end

section Grammar

variable {frames : List Frame}

theorem run_append (position : Position) (first rest : List Token) :
    position.run (first ++ rest) = (position.run first).bind (·.run rest) := by
  induction first generalizing position with
  | nil => rfl
  | cons token first ih =>
      rw [List.cons_append, Position.run, Position.run]
      cases position.next token with
      | none => rfl
      | some next => exact ih next

/-- What stands first in an array is an item of it, unless the array ends there. -/
theorem run_firstItem {items : List Json} (nonempty : items ≠ []) (rest : List Token) :
    Position.run (.firstItem frames) (tokensOfItems items ++ rest) =
      Position.run (.value (.item [] :: frames)) (tokensOfItems items ++ rest) := by
  cases items with
  | nil => exact absurd rfl nonempty
  | cons item items => cases items <;> cases item <;> rfl

/-- What stands first in an object is a name, unless the object ends there. -/
theorem run_firstName {members : List Member} (nonempty : members ≠ []) (rest : List Token) :
    Position.run (.firstName frames) (tokensOfMembers members ++ rest) =
      Position.run (.name [] frames) (tokensOfMembers members ++ rest) := by
  cases members with
  | nil => exact absurd rfl nonempty
  | cons member members => cases members <;> rfl

mutual

/-- The tokens of a value build the value in any place. -/
theorem run_tokensOf (frames : List Frame) : (value : Json) →
    Position.run (.value frames) (tokensOf value) = some (Position.fill value frames)
  | .null => rfl
  | .bool _ => rfl
  | .number _ => rfl
  | .string _ => rfl
  | .array items => by
      have filled := run_tokensOfItems [] frames items
      cases items with
      | nil => rfl
      | cons item items =>
          have opened : Position.run (.firstItem frames) _ = _ :=
            run_firstItem (List.cons_ne_nil item items) [.arrayEnd]
          refine opened.trans ?_
          rw [run_append, filled (List.cons_ne_nil item items)]
          simp [Position.run, Position.next]
  | .object members => by
      have filled := run_tokensOfMembers [] frames members
      cases members with
      | nil => rfl
      | cons member members =>
          have opened : Position.run (.firstName frames) _ = _ :=
            run_firstName (List.cons_ne_nil member members) [.objectEnd]
          refine opened.trans ?_
          rw [run_append, filled (List.cons_ne_nil member members)]
          simp [Position.run, Position.next]

theorem run_tokensOfItems (read : List Json) (frames : List Frame) :
    (items : List Json) → items ≠ [] →
      Position.run (.value (.item read :: frames)) (tokensOfItems items) =
        some (.afterItem (items.reverse ++ read) frames)
  | [], nonempty => absurd rfl nonempty
  | [item], _ => run_tokensOf (.item read :: frames) item
  | item :: next :: items, _ => by
      have first := run_tokensOf (.item read :: frames) item
      have rest := run_tokensOfItems (item :: read) frames (next :: items) (List.cons_ne_nil _ _)
      rw [tokensOfItems, run_append, first]
      refine rest.trans ?_
      simp

theorem run_tokensOfMembers (read : List Member) (frames : List Frame) :
    (members : List Member) → members ≠ [] →
      Position.run (.name read frames) (tokensOfMembers members) =
        some (.afterMember (members.reverse ++ read) frames)
  | [], nonempty => absurd rfl nonempty
  | [(name, value)], _ => run_tokensOf (.member read name :: frames) value
  | (name, value) :: next :: members, _ => by
      have first := run_tokensOf (.member read name :: frames) value
      have rest := run_tokensOfMembers ((name, value) :: read) frames (next :: members)
        (List.cons_ne_nil _ _)
      have named : Position.run (.name read frames)
          (tokensOfMembers ((name, value) :: next :: members)) =
            Position.run (.value (.member read name :: frames))
              (tokensOf value ++ .comma :: tokensOfMembers (next :: members)) := rfl
      rw [named, run_append, first]
      refine rest.trans ?_
      simp

end

theorem ofTokens?_tokensOf (value : Json) : ofTokens? (tokensOf value) = some value := by
  rw [ofTokens?, run_tokensOf]
  rfl

end Grammar

section Layout

theorem isSpace_of_mem_indent {depth : Nat} : ∀ c ∈ indent depth, isSpace c := by
  intro c mem
  simp only [indent, List.mem_cons, List.mem_replicate] at mem
  rcases mem with rfl | ⟨_, rfl⟩ <;> rfl

theorem closes_indent (depth : Nat) (text tail : List Char) :
    Closes (indent depth ++ text ++ tail) := by
  rintro c ⟨⟩
  decide

theorem closes_comma (text tail : List Char) : Closes (',' :: text ++ tail) := by
  rintro c ⟨⟩
  decide

mutual

/-- The pretty form of a value spells its tokens. -/
theorem spells_prettyAt (depth : Nat) : (value : Json) → Faithful value →
    Spells (tokensOf value) (prettyAt depth value)
  | .null, _ => .word rfl
  | .bool true, _ => .word rfl
  | .bool false, _ => .word rfl
  | .number _, faithful => .number faithful
  | .string text, _ => by
      have literal : Spells [.scalar (.string text)] (renderString text ++ []) := .string text .nil
      rw [List.append_nil] at literal
      exact literal
  | .array items, faithful => by
      have inside := spells_prettyItems (depth + 1) items faithful
      cases items with
      | nil => exact .sign rfl (.sign rfl .nil)
      | cons item items =>
          have closing : Spells [.arrayEnd] (indent depth ++ [']']) :=
            .blanks isSpace_of_mem_indent (.sign rfl .nil)
          have body := inside.append closing fun tail _ => closes_indent depth _ tail
          rw [← List.append_assoc] at body
          exact .sign rfl body
  | .object members, faithful => by
      have inside := spells_prettyMembers (depth + 1) members faithful
      cases members with
      | nil => exact .sign rfl (.sign rfl .nil)
      | cons member members =>
          have closing : Spells [.objectEnd] (indent depth ++ ['\x7d']) :=
            .blanks isSpace_of_mem_indent (.sign rfl .nil)
          have body := inside.append closing fun tail _ => closes_indent depth _ tail
          rw [← List.append_assoc] at body
          exact .sign rfl body

theorem spells_prettyItems (depth : Nat) : (items : List Json) → FaithfulItems items →
    Spells (tokensOfItems items) (prettyItems depth items)
  | [], _ => .nil
  | [item], faithful =>
      .blanks isSpace_of_mem_indent (spells_prettyAt depth item faithful.1)
  | item :: next :: items, faithful => by
      have first := spells_prettyAt depth item faithful.1
      have rest := spells_prettyItems depth (next :: items) faithful.2
      have line := first.append (.sign rfl rest) fun tail _ => closes_comma _ tail
      rw [prettyItems, List.append_assoc]
      exact .blanks isSpace_of_mem_indent line

theorem spells_prettyMembers (depth : Nat) : (members : List (Option String × Json)) →
    FaithfulMembers members → Spells (tokensOfMembers members) (prettyMembers depth members)
  | [], _ => .nil
  | [(name, value)], faithful => by
      have first := spells_prettyAt depth value faithful.1
      rw [prettyMembers, List.append_assoc, List.append_assoc]
      exact .blanks isSpace_of_mem_indent (.string name (.sign rfl (.blank rfl first)))
  | (name, value) :: next :: members, faithful => by
      have first := spells_prettyAt depth value faithful.1
      have rest := spells_prettyMembers depth (next :: members) faithful.2
      have line := first.append (.sign rfl rest) fun tail _ => closes_comma _ tail
      rw [prettyMembers, List.append_assoc, List.append_assoc, List.append_assoc]
      exact .blanks isSpace_of_mem_indent (.string name (.sign rfl (.blank rfl line)))

end

/-- A value that is written in the pretty form is read back. -/
theorem parse?_pretty {value : Json} (faithful : Faithful value) :
    parse? value.pretty = some value := by
  have spelled : tokens? value.pretty = some (tokensOf value) :=
    (spells_prettyAt 0 value faithful).tokens?_eq
  rw [parse?, spelled, Option.bind_some, ofTokens?_tokensOf]

end Layout

end CommandUrl.Json

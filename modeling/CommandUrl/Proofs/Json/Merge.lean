import CommandUrl.Json.Merge
import Mathlib.Data.String.Basic

/-!
# What a change makes of an object

A change speaks of the names that it has members of and of no other. After it, a
name that it does not speak of has the value it had, and a name that it speaks of
has the value of the last member of that name, unless this is an object itself,
which is merged in turn. The members of what comes out are in the order of their
names and no name occurs twice, so the value of a name says all there is to know
about it.
-/

namespace CommandUrl.Json

/-- The value that an object has under a name; of several members of the name the last one
counts. -/
def member? : Json → Option String → Option Json
  | .object members, name => members.reverse.lookup name
  | _, _ => none

/-- The members are in the order of their names, and no two have the same name. -/
def Ordered (members : List Member) : Prop :=
  members.Pairwise fun member later => nameBefore member.1 later.1

section Names

variable {first second third : Option String}

theorem nameBefore_trans (before : nameBefore first second) (after : nameBefore second third) :
    nameBefore first third := by
  rcases first with _ | first <;> rcases second with _ | second <;> rcases third with _ | third
  all_goals simp only [nameBefore, decide_eq_true_eq, Bool.false_eq_true] at before after ⊢
  exact lt_trans before after

theorem nameBefore_of_not (different : first ≠ second) (notBefore : ¬ nameBefore first second) :
    nameBefore second first := by
  rcases first with _ | first <;> rcases second with _ | second
  all_goals simp only [nameBefore, decide_eq_true_eq, not_true_eq_false, not_lt] at notBefore ⊢
  · exact absurd rfl different
  · apply lt_of_le_of_ne notBefore
    rintro rfl
    exact different rfl

theorem ne_of_nameBefore (before : nameBefore first second) : first ≠ second := by
  rintro rfl
  rcases first with _ | first
  all_goals simp [nameBefore] at before

end Names

theorem lookup_cons_eq {α β : Type} [BEq α] [LawfulBEq α] [DecidableEq α] (name first : α)
    (value : β) (rest : List (α × β)) :
    List.lookup name ((first, value) :: rest) =
      if name = first then some value else rest.lookup name := by
  by_cases same : name = first
  · simp [same]
  · have differ : (name == first) = false := by simpa using same
    simp [List.lookup_cons, differ, same]

section Members

variable {name other : Option String} {value : Json} {members : List Member}

theorem lookup_putMember (name other : Option String) (value : Json) (members : List Member) :
    (putMember name value members).lookup other =
      if other = name then some value else members.lookup other := by
  induction members with
  | nil => simp [putMember, lookup_cons_eq]
  | cons member members ih =>
      rcases member with ⟨first, old⟩
      unfold putMember
      split
      · next here =>
          subst here
          simp only [lookup_cons_eq]
          split <;> rfl
      · next elsewhere =>
          split
          · simp only [lookup_cons_eq]
          · simp only [lookup_cons_eq, ih]
            rcases eq_or_ne other name with rfl | differ
            · simp [elsewhere]
            · simp [differ]

theorem mem_putMember {member : Member} (mem : member ∈ putMember name value members) :
    member = (name, value) ∨ member ∈ members := by
  induction members with
  | nil => simpa [putMember] using mem
  | cons first members ih =>
      rcases first with ⟨first, old⟩
      unfold putMember at mem
      split at mem
      · simp only [List.mem_cons] at mem ⊢
        tauto
      · split at mem
        · simpa using mem
        · simp only [List.mem_cons] at mem ⊢
          tauto

theorem ordered_putMember (name : Option String) (value : Json) (ordered : Ordered members) :
    Ordered (putMember name value members) := by
  induction members with
  | nil => simp [putMember, Ordered]
  | cons member members ih =>
      rcases member with ⟨first, old⟩
      rcases List.pairwise_cons.mp ordered with ⟨least, rest⟩
      unfold putMember
      split
      · next here =>
          subst here
          exact .cons least rest
      · next elsewhere =>
          split
          · next before =>
              apply List.Pairwise.cons
              · intro later mem
                rcases List.mem_cons.mp mem with rfl | behind
                · exact before
                · exact nameBefore_trans before (least later behind)
              · exact ordered
          · next notBefore =>
              apply List.Pairwise.cons
              · intro later mem
                rcases mem_putMember mem with rfl | kept
                · exact nameBefore_of_not elsewhere notBefore
                · exact least later kept
              · exact ih rest

theorem ordered_foldl (ordered : Ordered members) (more : List Member) :
    Ordered (more.foldl (fun members (name, value) => putMember name value members) members) := by
  induction more generalizing members with
  | nil => exact ordered
  | cons member more ih => exact ih (ordered_putMember member.1 member.2 ordered)

theorem ordered_inOrder (members : List Member) : Ordered (inOrder members) :=
  ordered_foldl .nil members

theorem lookup_inOrder (name : Option String) (members : List Member) :
    (inOrder members).lookup name = members.reverse.lookup name := by
  -- by induction for whatever members there are already
  have folded : ∀ earlier : List Member,
      (members.foldl (fun members (name, value) => putMember name value members) earlier).lookup
        name = (members.reverse.lookup name).or (earlier.lookup name) := by
    induction members with
    | nil => simp
    | cons member members ih =>
        intro earlier
        rcases member with ⟨first, value⟩
        simp only [List.foldl_cons, ih, lookup_putMember, List.reverse_cons, List.lookup_append,
          lookup_cons_eq, List.lookup_nil, Option.or_assoc]
        congr 1
        split <;> simp
  simpa [inOrder] using folded []

theorem ordered_mergeMembers (ordered : Ordered members) (changes : List Member) :
    Ordered (mergeMembers members changes) := by
  induction changes generalizing members with
  | nil => simpa [mergeMembers] using ordered
  | cons change changes ih =>
      rcases change with ⟨name, value⟩
      rw [mergeMembers]
      exact ih (ordered_putMember name _ ordered)

/-- In members that are in order every name is looked up at the one member that has it. -/
theorem lookup_reverse_of_ordered (ordered : Ordered members) (name : Option String) :
    members.reverse.lookup name = members.lookup name := by
  induction members with
  | nil => rfl
  | cons member members ih =>
      rcases member with ⟨first, value⟩
      rcases List.pairwise_cons.mp ordered with ⟨least, rest⟩
      simp only [List.reverse_cons, List.lookup_append, ih rest, lookup_cons_eq, List.lookup_nil]
      split
      · next here =>
          subst here
          have absent : members.lookup name = none := by
            rw [List.lookup_eq_none_iff]
            intro later mem
            simpa using ne_of_nameBefore (least later mem)
          simp [absent]
      · simp

end Members

section Merging

variable {name : Option String} {value change : Json} {members changes : List Member}

theorem merge_of_plain (plain : ∀ members, change ≠ .object members) (target : Json) :
    target.merge change = change := by
  cases change with
  | object members => exact absurd rfl (plain members)
  | _ => simp [merge]

theorem merge_eq_object (target : Json) (changes : List Member) :
    ∃ merged, target.merge (.object changes) = .object merged := by
  cases target with
  | object members => exact ⟨_, by rw [merge]⟩
  | _ => exact ⟨changes, by simp [merge]⟩

theorem lookup_mergeMembers_of_unnamed (unnamed : changes.reverse.lookup name = none)
    (members : List Member) : (mergeMembers members changes).lookup name = members.lookup name := by
  induction changes generalizing members with
  | nil => rw [mergeMembers]
  | cons first changes ih =>
      rcases first with ⟨other, value⟩
      simp only [List.reverse_cons, List.lookup_append, lookup_cons_eq, List.lookup_nil,
        Option.or_eq_none_iff] at unnamed
      rcases unnamed with ⟨rest, here⟩
      have differ : name ≠ other := by
        rintro rfl
        simp at here
      rw [mergeMembers, ih rest, lookup_putMember, if_neg differ]

theorem lookup_mergeMembers_of_named (named : changes.reverse.lookup name = some change)
    (members : List Member) :
    ∃ target : Json, (mergeMembers members changes).lookup name = some (target.merge change) := by
  induction changes generalizing members with
  | nil => simp at named
  | cons first changes ih =>
      rcases first with ⟨other, value⟩
      rw [mergeMembers]
      cases later : changes.reverse.lookup name with
      | some last =>
          have same : last = change := by simpa [List.lookup_append, later] using named
          subst same
          exact ih later _
      | none =>
          -- no later member has the name, so the first one decides
          simp only [List.reverse_cons, List.lookup_append, later, lookup_cons_eq, List.lookup_nil,
            Option.none_or, Option.ite_none_right_eq_some, Option.some.injEq] at named
          rcases named with ⟨rfl, rfl⟩
          refine ⟨(members.lookup name).getD .null, ?_⟩
          rw [lookup_mergeMembers_of_unnamed later, lookup_putMember, if_pos rfl]

theorem member?_merge (name : Option String) (members changes : List Member) :
    ((Json.object members).merge (.object changes)).member? name =
      (mergeMembers (inOrder members) changes).lookup name := by
  rw [merge, member?]
  exact lookup_reverse_of_ordered (ordered_mergeMembers (ordered_inOrder members) changes) name

theorem member?_merge_of_unnamed (unnamed : (Json.object changes).member? name = none)
    (members : List Member) :
    ((Json.object members).merge (.object changes)).member? name =
      (Json.object members).member? name := by
  rw [member?_merge, lookup_mergeMembers_of_unnamed unnamed, lookup_inOrder]
  rfl

theorem member?_merge_of_named (named : (Json.object changes).member? name = some change)
    (members : List Member) :
    ∃ target : Json, ((Json.object members).merge (.object changes)).member? name =
      some (target.merge change) := by
  rw [member?_merge]
  exact lookup_mergeMembers_of_named named (inOrder members)

theorem member?_merge_eq_none_iff :
    ((Json.object members).merge (.object changes)).member? name = none ↔
      (Json.object changes).member? name = none ∧ (Json.object members).member? name = none := by
  cases named : (Json.object changes).member? name with
  | none => simp [member?_merge_of_unnamed named]
  | some change =>
      rcases member?_merge_of_named named members with ⟨target, merged⟩
      simp [merged]

/-- A value that is no object comes from the change as it is, if the change names it at all. -/
theorem member?_merge_eq_some_iff (plain : ∀ members, value ≠ .object members) :
    ((Json.object members).merge (.object changes)).member? name = some value ↔
      ((Json.object changes).member? name).or ((Json.object members).member? name) =
        some value := by
  cases named : (Json.object changes).member? name with
  | none => simp [member?_merge_of_unnamed named]
  | some change =>
      rcases member?_merge_of_named named members with ⟨target, merged⟩
      rw [merged, Option.some_or]
      by_cases nested : ∃ inner, change = .object inner
      · rcases nested with ⟨inner, rfl⟩
        rcases merge_eq_object target inner with ⟨result, whole⟩
        rw [whole]
        simp [(plain _).symm]
      · rw [not_exists] at nested
        rw [merge_of_plain nested]

end Merging

end CommandUrl.Json

import CommandUrl.Json.Value

/-!
# Merging JSON

A change to a stored value is itself a value. Objects are merged member by
member, a member that the change names taking the merged value and every other
member staying; anything else is replaced as a whole. The members of a merged
object come in the order of their names.
-/

namespace CommandUrl.Json

/-- The order of names, a literal without a text first. -/
def nameBefore : Option String → Option String → Bool
  | none, some _ => true
  | some left, some right => left < right
  | _, none => false

/-- Puts a member among members in order, in place of one of the same name. -/
def putMember (name : Option String) (value : Json) : List Member → List Member
  | [] => [(name, value)]
  | (other, old) :: members =>
    if name = other then (name, value) :: members
    else if nameBefore name other then (name, value) :: (other, old) :: members
    else (other, old) :: putMember name value members

/-- The members in the order of their names; of several of one name the last stays. -/
def inOrder (members : List Member) : List Member :=
  members.foldl (fun members (name, value) => putMember name value members) []

mutual

/-- The value that `target` becomes by a change. -/
def merge (target : Json) : Json → Json
  | .object changes =>
    match target with
    | .object members => .object (mergeMembers (inOrder members) changes)
    | _ => .object changes
  | change => change

/-- The members that an object has after the changes. -/
def mergeMembers (members : List (Option String × Json)) :
    List (Option String × Json) → List (Option String × Json)
  | [] => members
  | (name, change) :: changes =>
    mergeMembers (putMember name (merge ((members.lookup name).getD .null) change) members) changes

end

end CommandUrl.Json

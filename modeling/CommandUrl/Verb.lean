/-!
# Verbs

The host of a command address names a verb. There are seven, and one of them
goes by two names.
-/

namespace CommandUrl

/-- What a command does. -/
inductive Verb where
  | add
  | help
  | expand
  | openNote
  | prefs
  | run
  | find
  deriving Repr, DecidableEq

namespace Verb

/-- The name of a verb. -/
def name : Verb → String
  | add => "add"
  | help => "help"
  | expand => "expand"
  | openNote => "open"
  | prefs => "prefs"
  | run => "run"
  | find => "find"

/-- The verbs in the order in which they are documented. -/
def all : List Verb := [add, help, expand, openNote, prefs, run, find]

/-- The verb of a name, exactly as written. -/
def ofName? (name : String) : Option Verb :=
  all.find? (·.name = name)

/-- The verb that a command asks for; `settings` is another name of `prefs`. -/
def parse? (word : String) : Option Verb :=
  if word = "settings" then some prefs else ofName? word

theorem ofName?_name (verb : Verb) : ofName? verb.name = some verb := by
  cases verb <;> decide

theorem name_of_ofName? {name : String} {verb : Verb} (h : ofName? name = some verb) :
    verb.name = name := by
  simpa using List.find?_some h

end Verb

end CommandUrl

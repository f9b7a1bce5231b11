import CommandUrl.Host.Conversation

/-!
# Finding collections

A collection may be named by a shortcut, by a path or by an alias. The sources
are consulted in a fixed order and each only if those before it gave nothing:
the collections opened together and the single ones for the shortcut, the known
paths, the aliases, and last the path itself, which then is looked at to see
what it leads to.
-/

namespace CommandUrl

/-- The ways in which a collection is named; any of them may be absent. -/
structure Locator where
  shortcut : Option String := none
  path : Option String := none
  special : Option String := none
  deriving Repr, DecidableEq

namespace Locator

variable {σ : Type}

/-- A locator in words. -/
def describe (locator : Locator) : String :=
  let named (label : String) (value : Option String) : List String :=
    value.toList.map fun value => label ++ " '" ++ value ++ "'"
  let parts := named "shortcut" locator.shortcut ++ named "path" locator.path ++
    named "special" locator.special
  if parts.isEmpty then "no collection named" else ", ".intercalate parts

/-- Tries a source for a name that is there and not empty. -/
def consult (name : Option String) (source : String → Dialogue σ (Option Link)) :
    Dialogue σ (Option Link) :=
  match name with
  | some name => if name.isEmpty then pure none else source name
  | none => pure none

/-- The first link that two sources give. -/
def orElse (first second : Dialogue σ (Option Link)) : Dialogue σ (Option Link) := do
  match ← first with
  | some link => pure (some link)
  | none => second

/-- The link of a shortcut. -/
def shortcutLink (host : Host σ) (shortcut : String) : Dialogue σ (Option Link) :=
  orElse (.ask host (.multiLink shortcut)) (.ask host (.shortcutLink shortcut))

/-- The link of an alias. -/
def specialLink (host : Host σ) (name : String) : Dialogue σ (Option Link) :=
  match SpecialFolder.ofName? name with
  | some folder => .ask host (.specialLink folder)
  | none => pure none

/-- The link of a path that nobody knows, with the kind of thing that is there. -/
def literalLink (host : Host σ) (path : Option String) : Dialogue σ (Option Link) :=
  match path.bind Link.ofText? with
  | none => pure none
  | some link => do
    let kind ← Dialogue.ask host (.classify link)
    Dialogue.log (.linkSynthesized link.url kind)
    pure (some { link with kind })

/-- The link that a locator names. -/
def link (host : Host σ) (locator : Locator) : Dialogue σ (Option Link) :=
  orElse (consult locator.shortcut (shortcutLink host)) <|
  orElse (consult locator.path fun path => .ask host (.pathLink path)) <|
  orElse (consult locator.special (specialLink host)) <|
  literalLink host locator.path

/-- The window of the collection that a locator names. -/
def resolve (host : Host σ) (locator : Locator) : Dialogue σ (Except Failure Window) := do
  match ← locator.link host with
  | none => pure (.error (.collectionNotFound ("Unable to locate " ++ locator.describe)))
  | some link =>
    match ← Dialogue.ask host (.openWindow link) with
    | some window => pure (.ok window)
    | none => pure (.error (.collectionNotFound ("Unable to open collection at " ++ link.url)))

end Locator

end CommandUrl

import CommandUrl.Failure
import CommandUrl.Json.Value
import CommandUrl.Link
import CommandUrl.Verb

/-!
# Events

What the interpreter writes to its log. An event is what happened; its level,
its wording and its fields are functions of it.
-/

namespace CommandUrl

/-- How much an event matters. -/
inductive Level where
  | debug
  | info
  | warn
  | error
  deriving Repr, DecidableEq

/-- The name of a level. -/
def Level.name : Level → String
  | debug => "DEBUG"
  | info => "INFO"
  | warn => "WARN"
  | error => "ERROR"

/-- Something that happened. -/
inductive Event where
  /-- A verb has something to say. -/
  | noted (verb : String) (message : String)
  /-- A failure was reported while a verb was at work. -/
  | failed (verb : String) (failure : Failure)
  /-- A command came to its end with so many failures. -/
  | completed (verb : Verb) (failures : Nat)
  /-- A path that nobody knew was made into a link. -/
  | linkSynthesized (url : String) (kind : LinkKind)
  /-- A view would not focus a note. -/
  | focusDeclined (window : Nat) (note : String)
  /-- A link between notes names a collection that nobody knows. -/
  | unknownCollection (shortcut : String)
  /-- The collection of a link between notes would not open. -/
  | collectionNotOpened (url : String)
  /-- A settings file is there but cannot be read as one. -/
  | settingsUnreadable (path : String)
  deriving Repr, DecidableEq

namespace Event

/-- The level of an event. -/
def level : Event → Level
  | noted .. | completed .. => .info
  | failed .. => .error
  | linkSynthesized .. | focusDeclined .. | unknownCollection _ | collectionNotOpened _ => .debug
  | settingsUnreadable _ => .warn

/-- The wording of an event. -/
def message : Event → String
  | noted _ message => message
  | failed _ failure => failure.message
  | completed .. => "url command completed"
  | linkSynthesized .. => "synthesized collection link from path"
  | focusDeclined .. => "view declined focus request"
  | unknownCollection _ => "note link names an unknown collection"
  | collectionNotOpened _ => "note link collection could not be opened"
  | settingsUnreadable _ => "settings file unreadable, using defaults"

/-- The fields of an event. -/
def fields : Event → List (String × Json)
  | noted verb _ => [("verb", .text verb)]
  | failed verb failure => [("verb", .text verb), ("code", .text failure.code)]
  | completed verb failures => [("verb", .text verb.name), ("failures", .natural failures)]
  | linkSynthesized url kind => [("url", .text url), ("link_type", .text kind.properName)]
  | focusDeclined window note => [("window", .natural window), ("note", .text note)]
  | unknownCollection shortcut => [("shortcut", .text shortcut)]
  | collectionNotOpened url => [("url", .text url)]
  | settingsUnreadable path => [("path", .text path)]

end Event

end CommandUrl

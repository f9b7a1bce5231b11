import CommandUrl.Link

/-!
# Settings

What a user may configure: the scheme that commands come under, the two folders
with an alias, whether failures are shown, and how much is logged.
-/

namespace CommandUrl

/-- The configuration of the interpreter. -/
structure Settings where
  urlScheme : String := "notenik"
  essentialFolder : Option String := none
  generalFolder : Option String := none
  alertOnError : Bool := true
  logLevel : String := "info"
  deriving Repr, DecidableEq

namespace Settings

/-- The settings of somebody who has configured nothing. -/
def default : Settings := {}

/-- The link of a folder with an alias, if it is configured and not blank. -/
def specialFolder? (settings : Settings) : SpecialFolder → Option Link
  | .essential => settings.essentialFolder.bind Link.ofText?
  | .general => settings.generalFolder.bind Link.ofText?

end Settings

end CommandUrl

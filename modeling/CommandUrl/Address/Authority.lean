import CommandUrl.Address.Host

/-!
# Authorities

After the scheme and two slashes comes the authority: credentials up to the
last at sign, a host, and a port after the first colon outside brackets. Only
the host matters to a command, but an authority that breaks the rules makes the
whole address malformed: a port that is no number below 65536, credentials
without a host, a port without a host, or an empty host where the scheme is
special.
-/

namespace CommandUrl.Address

/-- A character that ends the authority. -/
def endsAuthority (kind : SchemeKind) (c : Char) : Bool :=
  c = '/' || c = '?' || c = '#' || (c = '\\' && kind != .ordinary)

/-- Cuts a host from the port, at the first colon outside brackets; the colon stays with the
port. -/
def cutPort (bracketed : Bool) : List Char → List Char × List Char
  | [] => ([], [])
  | c :: rest =>
    if c = ':' && !bracketed then
      ([], c :: rest)
    else
      let (host, port) := cutPort (c = '[' || (bracketed && c != ']')) rest
      (c :: host, port)

/-- The port is absent, or a colon and a number below 65536, possibly without digits. A backslash
ends it, since under an ordinary scheme a path may start with one. -/
def acceptsPort : List Char → Bool
  | [] => true
  | _ :: digits =>
    Text.numberOf 10 (digits.takeWhile Text.isDigit) < 0x10000 &&
      ((digits.dropWhile Text.isDigit).head?.all (· = '\\'))

/-- The credentials name someone: they are neither empty nor a lone colon. -/
def namesUser (credentials : List Char) : Bool :=
  credentials != [] && credentials != [':']

/-- Reads the host out of an authority; an address without a host has `some none`, a malformed
authority `none`. Under an at sign that nothing precedes, the host may only be empty if the address
ends there. -/
def authorityHost? (kind : SchemeKind) (authority tail : List Char) :
    Option (Option (List Char)) := do
  let (credentials, place) :=
    match Text.cutLast? '@' authority with
    | some (credentials, place) => (some credentials, place)
    | none => (none, authority)
  guard (credentials != some [] || place != [] || tail == [])
  let (text, port) := cutPort false place
  if text.isEmpty then
    guard (kind == .ordinary && port.isEmpty && !credentials.any namesUser)
    some none
  else
    guard (acceptsPort port)
    let host ← host? kind text
    some (some host)

end CommandUrl.Address

import CommandUrl.Address.FileHost

/-!
# Addresses

A command is written as an address, and of an address three things matter: its
scheme, its host and its query. Reading one goes from left to right, cutting a
piece off at a time: blanks and controls at the ends fall away, tabs and line
breaks everywhere, then come the scheme, the authority, the path, the query and
the fragment. The boundaries are the first occurrences of delimiters, so they
are stated with `takeWhile` and `dropWhile` and nothing is scanned twice.

`Address.parse` fails in two ways only. Text without a scheme is no address,
and a malformed authority spoils one.
-/

namespace CommandUrl

/-- What a command needs of an address. -/
structure Address where
  /-- The scheme in lower case. -/
  scheme : List Char
  /-- The host, if there is one; it is then not empty. -/
  host : Option (List Char)
  /-- The query, with what may not stand in one escaped; empty if there is none. -/
  query : List Char
  deriving Repr, DecidableEq

namespace Address

/-- Why a text is not an address. -/
inductive Problem where
  | noScheme
  | malformed
  deriving Repr, DecidableEq

/-- A character that falls away at either end of an address. -/
def isTrimmed (c : Char) : Bool :=
  c.toNat ≤ 0x20

/-- A character that falls away wherever it stands in an address. -/
def isIgnored (c : Char) : Bool :=
  c = '\t' || c = '\n' || c = '\r'

/-- A text without the characters that an address does not count. -/
def clean (raw : List Char) : List Char :=
  (((raw.dropWhile isTrimmed).reverse.dropWhile isTrimmed).reverse).filter (!isIgnored ·)

/-- A character that is escaped in the query under a scheme of the given kind. -/
def escapedInQuery (kind : SchemeKind) (c : Char) : Bool :=
  Percent.isControl c || c = ' ' || c = '"' || c = '#' || c = '<' || c = '>' ||
    (c = '\'' && kind != .ordinary)

/-- The query in what follows the authority: from the first question mark to the first number
sign, unless the number sign comes first. -/
def queryOf (kind : SchemeKind) (tail : List Char) : List Char :=
  match tail.dropWhile (fun c => c != '?' && c != '#') with
  | '?' :: query => Percent.encode (escapedInQuery kind) (query.takeWhile (· != '#'))
  | _ => []

/-- The authority of what follows the scheme, and what follows the authority. -/
def splitAuthority (kind : SchemeKind) (rest : List Char) : List Char × List Char :=
  (rest.takeWhile (!endsAuthority kind ·), rest.dropWhile (!endsAuthority kind ·))

/-- The host of what follows the scheme, and what follows the authority. -/
def locate? (kind : SchemeKind) (rest : List Char) : Option (Option (List Char) × List Char) :=
  match kind with
  | .ordinary =>
    match rest with
    | '/' :: '/' :: rest =>
      let (authority, tail) := splitAuthority .ordinary rest
      (authorityHost? .ordinary authority tail).map fun host => (host, tail)
    | _ => some (none, rest)
  | .network =>
    let (authority, tail) := splitAuthority .network (rest.dropWhile fun c => c = '/' || c = '\\')
    (authorityHost? .network authority tail).map fun host => (host, tail)
  | .file =>
    match rest with
    | first :: second :: rest =>
      if (first = '/' || first = '\\') && (second = '/' || second = '\\') then
        let (authority, tail) := splitAuthority .file rest
        (fileHost? authority tail).map fun host => (host, tail)
      else
        some (none, first :: second :: rest)
    | rest => some (none, rest)

/-- Reads an address. -/
def parse (raw : List Char) : Except Problem Address :=
  match splitScheme? (clean raw) with
  | none => .error .noScheme
  | some (scheme, rest) =>
    let kind := SchemeKind.of scheme
    match locate? kind rest with
    | none => .error .malformed
    | some (host, tail) => .ok { scheme, host, query := queryOf kind tail }

end Address

end CommandUrl

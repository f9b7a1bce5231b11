import CommandUrl.Address.Domain
import CommandUrl.Address.Ipv4
import CommandUrl.Address.Ipv6
import CommandUrl.Address.Scheme
import CommandUrl.Text.Percent

/-!
# Hosts

The host of an address is where a command has its name. Under an ordinary
scheme it is kept as written, case and escapes included; only characters that
could not stand in an address are escaped or refused. Under a special scheme it
is decoded, brought into its one form in ASCII, and read as a number if it ends
in one. An address of version six stands in brackets under every scheme.
-/

namespace CommandUrl.Address

/-- A host in brackets. -/
def bracketedHost? (text : List Char) : Option (List Char) :=
  if text.getLast? = some ']' then
    (Ipv6.parse? (text.drop 1).dropLast).map fun groups => '[' :: Ipv6.render groups ++ [']']
  else
    none

/-- A character that no host of an ordinary scheme may have. -/
def isForbiddenInHost (c : Char) : Bool :=
  match c with
  | '\x00' | '\t' | '\n' | '\r' | ' ' | '#' | '/' | ':' | '<' | '>' | '?' | '@' | '[' | '\\' | ']'
  | '^' | '|' => true
  | _ => false

/-- The host of an ordinary scheme. -/
def ordinaryHost? (text : List Char) : Option (List Char) :=
  if text.head? = some '[' then
    bracketedHost? text
  else if text.any isForbiddenInHost then
    none
  else
    some (Percent.encode Percent.isControl text)

/-- The host of a special scheme, which is never empty. -/
def domainHost? (text : List Char) : Option (List Char) :=
  if text.head? = some '[' then
    bracketedHost? text
  else do
    let domain ← Domain.toAscii? (Percent.bytes text)
    if domain.isEmpty then
      none
    else if Ipv4.endsInNumber domain then
      (Ipv4.parse? domain).map Ipv4.render
    else
      some domain

/-- Reads a host under a scheme of the given kind. -/
def host? (kind : SchemeKind) (text : List Char) : Option (List Char) :=
  match kind with
  | .ordinary => ordinaryHost? text
  | .network | .file => domainHost? text

end CommandUrl.Address

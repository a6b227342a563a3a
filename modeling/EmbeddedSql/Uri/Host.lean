import EmbeddedSql.Uri.Address
import EmbeddedSql.Uri.Basic
import EmbeddedSql.Uri.Domain

/-!
# Uri.Host — the computer that an address leads to

* `Uri.Host.special` — a host where the scheme is a special one: an address or a domain name;
* `Uri.Host.plain` — any other host: an address or plain text.
-/

namespace EmbeddedSql
namespace Uri
namespace Host

def bracketed (t : List Char) : Except Error (List Char) :=
  if t.getLast? = some ']' then
    match Ipv6.ofText? (t.drop 1).dropLast with
    | some pieces => .ok ('[' :: Ipv6.text pieces ++ [']'])
    | none => .error .badIpv6
  else .error .badIpv6

/-- A host where the scheme is a special one. -/
def special (t : List Char) : Except Error (List Char) :=
  if t.head? = some '[' then bracketed t
  else
    match (decode? t).bind Domain.toAscii? with
    | none => .error .badDomain
    | some [] => .error .emptyHost
    | some domain =>
      -- A name whose last part is a number is not taken for a domain, even if it is no address.
      if Ipv4.isNumeric domain then
        match Ipv4.ofText? domain with
        | some n => .ok (Ipv4.text n)
        | none => .error .badIpv4
      else .ok domain

/-- Characters that no host can have. -/
def isForbidden (c : Char) : Bool :=
  c.toNat == 0 || "\t\n\r #/:<>?@[\\]^|".contains c

/-- A host where the scheme is not a special one; it may be empty. -/
def plain (t : List Char) : Except Error (List Char) :=
  if t.head? = some '[' then bracketed t
  else if t.any isForbidden then .error .badHostCharacter
  else .ok (encode Escaped.control t)

end Host
end Uri
end EmbeddedSql

/-!
# Uri — addresses of documents

Editors name documents by uris.  Two texts that spell the same address in different ways name the
same document, so a uri is kept in a normal form, and is known by its text.

* `Uri` — an address in normal form;
* `Uri.Error` — why a text is no address;
* `Uri.Error.message` — the wording of each cause.
-/

namespace EmbeddedSql

/-- The address of a document, in normal form. -/
structure Uri where
  text : String
deriving DecidableEq, Repr, Inhabited

namespace Uri

inductive Error where
  /-- It does not begin with a scheme. -/
  | noScheme
  | emptyHost
  | badPort
  | badIpv4
  | badIpv6
  /-- The host is no domain name. -/
  | badDomain
  /-- The host has a character that hosts cannot have. -/
  | badHostCharacter
deriving DecidableEq, Repr

namespace Error

def message : Error → String
  | noScheme => "relative URL without a base"
  | emptyHost => "empty host"
  | badPort => "invalid port number"
  | badIpv4 => "invalid IPv4 address"
  | badIpv6 => "invalid IPv6 address"
  | badDomain => "invalid international domain name"
  | badHostCharacter => "invalid domain character"

end Error

end Uri
end EmbeddedSql

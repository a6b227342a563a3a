import EmbeddedSql.Uri.Host
import EmbeddedSql.Uri.Path

/-!
# Uri.Parser — addresses from text

An address has a scheme, possibly an authority (a user, a host and a port), a path, and possibly a
query and a fragment.  A few special schemes always have a host and a path of segments, files have a
path that may begin with a drive; any other scheme may have a plain text in place of the path.

* `Uri.Scheme` — the kinds of schemes;
* `Uri.authority` — user, host and port, in normal form;
* `Uri.ofSpecial`, `Uri.ofFile`, `Uri.ofOther` — what follows the scheme, in normal form;
* `Uri.parse` — the address that a text spells.
-/

namespace EmbeddedSql
namespace Uri

/-! ## Schemes -/

inductive Scheme where
  | file
  /-- A scheme with a host, and the port that need not be named. -/
  | special (port : Nat)
  | other
deriving DecidableEq, Repr

namespace Scheme

def ofName (name : String) : Scheme :=
  match name with
  | "file" => file
  | "http" => special 80
  | "https" => special 443
  | "ws" => special 80
  | "wss" => special 443
  | "ftp" => special 21
  | _ => other

/-- Whether backslashes count as slashes. -/
def isSpecial : Scheme → Bool
  | other => false
  | _ => true

def defaultPort? : Scheme → Option Nat
  | special port => some port
  | _ => none

end Scheme

def isSchemeChar (c : Char) : Bool :=
  c.isAlphanum || c == '+' || c == '-' || c == '.'

/-- The scheme that a text begins with, in lower case, and the text behind its colon. -/
def scheme? (t : List Char) : Option (List Char × List Char) :=
  match t.takeWhile isSchemeChar, t.dropWhile isSchemeChar with
  | c :: name, ':' :: rest => if c.isAlpha then some ((c :: name).map Char.toLower, rest) else none
  | _, _ => none

/-! ## Path, query and fragment -/

/-- A text divided in front of its first question mark or number sign. -/
def splitTail (t : List Char) : List Char × List Char :=
  (t.takeWhile fun c => c != '?' && c != '#', t.dropWhile fun c => c != '?' && c != '#')

/-- A query and a fragment, each behind its mark. -/
def tailText (special : Bool) : List Char → List Char
  | [] => []
  | '?' :: cs =>
    '?' :: encode (Escaped.query special) (cs.takeWhile (· != '#')) ++
      match cs.dropWhile (· != '#') with
      | [] => []
      | mark :: fragment => mark :: encode Escaped.fragment fragment
  | mark :: fragment => mark :: encode Escaped.fragment fragment

def isSlash (special : Bool) (c : Char) : Bool :=
  c == '/' || (special && c == '\\')

def dropSlash (special : Bool) : List Char → List Char
  | c :: cs => if isSlash special c then cs else c :: cs
  | [] => []

/-! ## Authority -/

/-- A text divided in front of the first character that ends an authority. -/
def splitAuthority (special : Bool) (t : List Char) : List Char × List Char :=
  let inside (c : Char) : Bool := !isSlash special c && c != '?' && c != '#'
  (t.takeWhile inside, t.dropWhile inside)

/-- The texts in front of and behind the last `@`. -/
def splitUser? (t : List Char) : Option (List Char × List Char) :=
  if t.contains '@' then
    some ((t.reverse.dropWhile (· != '@')).tail.reverse, (t.reverse.takeWhile (· != '@')).reverse)
  else none

/-- A user with a password, if any; nothing if both are empty. -/
def userText (t : List Char) : List Char :=
  let name := encode Escaped.user (t.takeWhile (· != ':'))
  let password := encode Escaped.user ((t.dropWhile (· != ':')).drop 1)
  if name.isEmpty && password.isEmpty then []
  else if password.isEmpty then name ++ ['@']
  else name ++ ':' :: password ++ ['@']

/-- A text divided in front of its first colon outside brackets. -/
def splitPort : (bracketed : Bool) → List Char → List Char × List Char
  | _, [] => ([], [])
  | bracketed, c :: cs =>
    if c = ':' && !bracketed then ([], c :: cs)
    else
      let (host, rest) := splitPort (c == '[' || (bracketed && c != ']')) cs
      (c :: host, rest)

/-- A port behind its colon, in normal form: without superfluous zeros, and only if it is not the
usual one.  Where the scheme is not a special one, a backslash ends the port and begins the path. -/
def portText (scheme : Scheme) : List Char → Except Error (List Char × List Char)
  | ':' :: cs =>
    let digits := cs.takeWhile Char.isDigit
    let rest := cs.dropWhile Char.isDigit
    -- A colon without digits is dropped below.
    let port := (number? 10 digits).getD 0
    if 65535 < port then .error .badPort
    else if !(rest.isEmpty || rest.head? == some '\\') then .error .badPort
    else if digits.isEmpty || scheme.defaultPort? = some port then .ok ([], rest)
    else .ok (':' :: Nat.toDigits 10 port, rest)
  | rest => .ok ([], rest)

def hostText (scheme : Scheme) (t : List Char) : Except Error (List Char) :=
  match scheme with
  | .other => Host.plain t
  | _ => if t.isEmpty then .error .emptyHost else Host.special t

/-- User, host and port in normal form, and what is left of the text. -/
def authorityText (scheme : Scheme) (t : List Char) : Except Error (List Char × List Char) := do
  let (user, place) := (splitUser? t).getD ([], t)
  let user := userText user
  let (host, port) := splitPort false place
  let host ← hostText scheme host
  if host.isEmpty && (!port.isEmpty || !user.isEmpty) then .error .emptyHost
  else
    let (port, rest) ← portText scheme port
    .ok (user ++ host ++ port, rest)

/-- The authority that a text begins with, in normal form, and the text behind it.  A sole `@` with
something behind it asks for a host that is not there. -/
def authority (scheme : Scheme) (t : List Char) : Except Error (List Char × List Char) := do
  let (inside, tail) := splitAuthority scheme.isSpecial t
  if inside = ['@'] && !tail.isEmpty then .error .emptyHost
  else
    let (text, rest) ← authorityText scheme inside
    .ok (text, rest ++ tail)

/-! ## Behind the scheme -/

/-- What follows a special scheme.  Any number of slashes leads to the authority, and there is
always a path. -/
def ofSpecial (scheme : Scheme) (t : List Char) : Except Error (List Char) := do
  let (place, rest) ← authority scheme (t.dropWhile (isSlash true))
  let (path, tail) := splitTail rest
  let segments := Segments.ofText false true (dropSlash true path)
  .ok ('/' :: '/' :: place ++ pathText segments ++ tailText true tail)

/-- A file's host: that of this computer is not named. -/
def fileHost (t : List Char) : Except Error (List Char) := do
  if t.isEmpty then .ok []
  else
    let host ← Host.special t
    if host = "localhost".toList then .ok [] else .ok host

/-- What follows the scheme of files, given its host.  A path that begins with a drive has no host,
and one that begins with several slashes loses all but one. -/
def fileText (host path tail : List Char) : List Char :=
  let segments := Segments.ofText true true path
  -- A drive is on this computer.
  let host := if (segments.head?.map isDriveLetter).getD false then [] else host
  '/' :: '/' :: host ++ '/' :: (pathText segments).dropWhile (· == '/') ++ tailText true tail

/-- What follows the scheme of files.  Two slashes lead to the host, unless a drive stands in its
place. -/
def ofFile (t : List Char) : Except Error (List Char) := do
  let slashes := (t.take 2).takeWhile (isSlash true)
  let behind := t.drop slashes.length
  let (path, tail) := splitTail behind
  let (host, rest) := splitAuthority true path
  if slashes.length < 2 || isDriveLetter host then .ok (fileText [] path tail)
  else
    let host ← fileHost host
    .ok (fileText host (dropSlash true rest) tail)

/-- What follows any other scheme: two slashes lead to an authority, one to a path, and anything
else is plain text. -/
def ofOther (t : List Char) : Except Error (List Char) :=
  match t with
  | '/' :: '/' :: t => do
    let (place, rest) ← authority .other t
    let (path, tail) := splitTail rest
    let path :=
      if path.isEmpty then [] else pathText (Segments.ofText false false (dropSlash false path))
    .ok ('/' :: '/' :: place ++ path ++ tailText false tail)
  | '/' :: t =>
    let (path, tail) := splitTail t
    let path := pathText (Segments.ofText false false path)
    -- Two slashes in front of a path would be taken for an authority.
    let path := if path.take 2 = ['/', '/'] then '/' :: '.' :: path else path
    .ok (path ++ tailText false tail)
  | t =>
    let (path, tail) := splitTail t
    .ok (encode Escaped.control path ++ tailText false tail)

/-! ## Addresses -/

/-- A text without controls and spaces around it, and without tabs and line breaks. -/
def clean (t : List Char) : List Char :=
  let outer (c : Char) : Bool := c.toNat ≤ 0x20
  let t := ((t.dropWhile outer).reverse.dropWhile outer).reverse
  t.filter fun c => c != '\t' && c != '\n' && c != '\r'

def parse (s : String) : Except Error Uri :=
  match scheme? (clean s.toList) with
  | none => .error .noScheme
  | some (name, rest) =>
    let scheme := Scheme.ofName (String.ofList name)
    let text := match scheme with
      | .file => ofFile rest
      | .special _ => ofSpecial scheme rest
      | .other => ofOther rest
    text.map fun text => ⟨String.ofList (name ++ ':' :: text)⟩

end Uri
end EmbeddedSql

/-!
# Uri.Percent — characters written as their bytes

A character that cannot stand for itself in a part of a uri is written as the bytes of its UTF-8
form, each as a percent sign and two hexadecimal digits.  Which characters these are depends on the
part.

* `Uri.bytes` — the UTF-8 form of a character;
* `Uri.percent` — one byte;
* `Uri.encode` — a text in which the characters of a set are written as their bytes;
* `Uri.Escaped.path`, `Uri.Escaped.query`, … — the set of each part;
* `Uri.decode?` — a text with all bytes read back.
-/

namespace EmbeddedSql
namespace Uri

/-! ## Bytes -/

def bytes (c : Char) : List Nat :=
  let n := c.toNat
  if n < 0x80 then [n]
  else if n < 0x800 then [0xC0 + n / 0x40, 0x80 + n % 0x40]
  else if n < 0x10000 then [0xE0 + n / 0x1000, 0x80 + n / 0x40 % 0x40, 0x80 + n % 0x40]
  else
    [0xF0 + n / 0x40000, 0x80 + n / 0x1000 % 0x40, 0x80 + n / 0x40 % 0x40, 0x80 + n % 0x40]

def hexDigit (n : Nat) : Char :=
  if n < 10 then Char.ofNat ('0'.toNat + n) else Char.ofNat ('A'.toNat + (n - 10))

def percent (byte : Nat) : List Char :=
  ['%', hexDigit (byte / 16), hexDigit (byte % 16)]

def encode (escaped : Char → Bool) (t : List Char) : List Char :=
  t.flatMap fun c => if escaped c then (bytes c).flatMap percent else [c]

/-! ## Sets -/

namespace Escaped

/-- Controls and everything beyond ASCII. -/
def control (c : Char) : Bool :=
  c.toNat < 0x20 || 0x7F ≤ c.toNat

/-- Characters that are escaped behind the number sign. -/
def fragment (c : Char) : Bool :=
  control c || " \"<>`".contains c

/-- Characters that are escaped in a query; an apostrophe only where the scheme is a special one. -/
def query (special : Bool) (c : Char) : Bool :=
  control c || " \"#<>".contains c || (special && c == '\'')

def path (c : Char) : Bool :=
  fragment c || "#?\x7b\x7d".contains c

def user (c : Char) : Bool :=
  path c || "/:;=@[\\]^|".contains c

end Escaped

/-! ## Reading back -/

def hexValue? (c : Char) : Option Nat :=
  if '0' ≤ c ∧ c ≤ '9' then some (c.toNat - '0'.toNat)
  else if 'a' ≤ c ∧ c ≤ 'f' then some (c.toNat - 'a'.toNat + 10)
  else if 'A' ≤ c ∧ c ≤ 'F' then some (c.toNat - 'A'.toNat + 10)
  else none

/-- The bytes of a text, in which a percent sign with two digits stands for a byte. -/
def decodeBytes : List Char → List Nat
  | [] => []
  | '%' :: a :: b :: cs =>
    match hexValue? a, hexValue? b with
    | some x, some y => (x * 16 + y) :: decodeBytes cs
    -- A percent sign without two digits stands for itself.
    | _, _ => '%'.toNat :: decodeBytes (a :: b :: cs)
  | c :: cs => bytes c ++ decodeBytes cs

/-- A text with all bytes read back, if they make a text. -/
def decode? (t : List Char) : Option (List Char) :=
  (String.fromUTF8? ⟨((decodeBytes t).map Nat.toUInt8).toArray⟩).map String.toList

end Uri
end EmbeddedSql

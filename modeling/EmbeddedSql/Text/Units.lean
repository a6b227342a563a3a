/-!
# Units — bytes and UTF-16 code units of a text

A text is a list of characters.  Offsets and columns of a document count the bytes of its UTF-8
form, editors count UTF-16 code units.  Both are measures on the list, so no second string type
is needed:

* `Text.byteLength`, `Text.unitLength` — the two measures;
* `Text.takeBytes` — the longest beginning that fits in a number of bytes;
* `Text.dropBytes?`, `Text.takeBytes?`, `Text.slice?` — exact cuts, defined only where the bounds
  fall between characters.
-/

namespace EmbeddedSql
namespace Text

/-! ## Measures -/

def byteLength : List Char → Nat
  | [] => 0
  | c :: cs => c.utf8Size + byteLength cs

/-- UTF-16 code units of one character: two beyond the basic plane. -/
def unitWidth (c : Char) : Nat :=
  if c.toNat < 0x10000 then 1 else 2

def unitLength : List Char → Nat
  | [] => 0
  | c :: cs => unitWidth c + unitLength cs

@[simp] theorem byteLength_nil : byteLength [] = 0 := rfl

@[simp] theorem byteLength_cons (c : Char) (cs : List Char) :
    byteLength (c :: cs) = c.utf8Size + byteLength cs := rfl

@[simp] theorem byteLength_append (s t : List Char) :
    byteLength (s ++ t) = byteLength s + byteLength t := by
  induction s with
  | nil => simp
  | cons c cs ih => simp [ih, Nat.add_assoc]

@[simp] theorem unitLength_nil : unitLength [] = 0 := rfl

@[simp] theorem unitLength_cons (c : Char) (cs : List Char) :
    unitLength (c :: cs) = unitWidth c + unitLength cs := rfl

@[simp] theorem unitLength_append (s t : List Char) :
    unitLength (s ++ t) = unitLength s + unitLength t := by
  induction s with
  | nil => simp
  | cons c cs ih => simp [ih, Nat.add_assoc]

/-! ## Cuts -/

/-- The longest beginning of a text that fits in `n` bytes.  A bound inside a character is moved
back to the start of that character. -/
def takeBytes : Nat → List Char → List Char
  | _, [] => []
  | n, c :: cs => if c.utf8Size ≤ n then c :: takeBytes (n - c.utf8Size) cs else []

/-- What follows the first `n` bytes, if they end between two characters. -/
def dropBytes? : Nat → List Char → Option (List Char)
  | 0, cs => some cs
  | _ + 1, [] => none
  | n + 1, c :: cs =>
    -- A character that is wider than what is left holds the bound.
    if c.utf8Size ≤ n + 1 then dropBytes? (n + 1 - c.utf8Size) cs else none

def takeBytes? : Nat → List Char → Option (List Char)
  | 0, _ => some []
  | _ + 1, [] => none
  | n + 1, c :: cs =>
    if c.utf8Size ≤ n + 1 then (takeBytes? (n + 1 - c.utf8Size) cs).map (c :: ·) else none

/-- The bytes from `start` up to `stop`, if both bounds fall between characters. -/
def slice? (start stop : Nat) (t : List Char) : Option (List Char) :=
  (dropBytes? start t).bind (takeBytes? (stop - start))

end Text
end EmbeddedSql

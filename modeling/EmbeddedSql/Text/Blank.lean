import EmbeddedSql.Text.Split

/-!
# Blank — white space and words

White space is the Unicode property `White_Space`.  This module holds the property, trimming, and
the decomposition of a text into the words between white space:

* `Text.isBlank` — the property;
* `Text.trimStart`, `Text.trimEnd`, `Text.trim` — a text without surrounding white space;
* `Text.words` — the maximal runs of other characters, in order.
-/

namespace EmbeddedSql
namespace Text

def isBlank (c : Char) : Bool :=
  let n := c.toNat
  (0x09 ≤ n && n ≤ 0x0D) || n == 0x20 || n == 0x85 || n == 0xA0 || n == 0x1680 ||
    (0x2000 ≤ n && n ≤ 0x200A) || n == 0x2028 || n == 0x2029 || n == 0x202F || n == 0x205F ||
    n == 0x3000

def trimStart (t : List Char) : List Char :=
  t.dropWhile isBlank

def trimEnd (t : List Char) : List Char :=
  (t.reverse.dropWhile isBlank).reverse

def trim (t : List Char) : List Char :=
  trimEnd (trimStart t)

def words (t : List Char) : List (List Char) :=
  -- Between two separators that stand side by side there is an empty piece.
  (split isBlank t).filter (!·.isEmpty)

end Text
end EmbeddedSql

/-!
# Ranges — sets of characters as ranges of code points

A property of characters is kept as the ranges of code points that have it.

* `Text.inRanges` — whether one of several ranges holds a character.
-/

namespace EmbeddedSql
namespace Text

def inRanges (ranges : List (Nat × Nat)) (c : Char) : Bool :=
  ranges.any fun (first, last) => first ≤ c.toNat && c.toNat ≤ last

end Text
end EmbeddedSql

import EmbeddedSql.Marker
import EmbeddedSql.Text.Units

/-!
# Hint — a hint comment directly in front of a construct

A `// sql` comment marks the construct behind it if it is all that stands between the last line
break and the construct.

* `Hint.leading` — the text between the last line break before an offset and the offset;
* `Hint.before` — whether that text is a hint.
-/

namespace EmbeddedSql
namespace Hint

/-- What follows the last line break of a text. -/
def lastLine (t : List Char) : List Char :=
  (Text.split (· == '\n') t).getLastD []

def leading (text : List Char) (offset : Nat) : List Char :=
  lastLine (Text.takeBytes offset text)

def before (text : List Char) (offset : Nat) : Bool :=
  Marker.ofLine? (leading text offset) == some .hint

end Hint
end EmbeddedSql

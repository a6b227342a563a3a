import EmbeddedSql.Uri.Domain.Composition
import EmbeddedSql.Uri.Domain.Direction
import EmbeddedSql.Uri.Domain.Mapping
import EmbeddedSql.Uri.Domain.Punycode

/-!
# Uri.Domain — names of computers

A domain name consists of labels between dots.  A label that is not ASCII is written in ASCII behind
the mark `xn--`; a label that has the mark already has to stand for a valid label.

* `Uri.Domain.isValidLabel` — whether marks and joiners of a label stand where they may;
* `Uri.Domain.label?` — the label that is meant;
* `Uri.Domain.labelAscii` — a label in ASCII;
* `Uri.Domain.toAscii?` — a domain name in ASCII.
-/

namespace EmbeddedSql
namespace Uri
namespace Domain

/-- ASCII characters that no domain name can have. -/
def isForbidden (c : Char) : Bool :=
  c.toNat ≤ 0x20 || c.toNat == 0x7F || "#%/:<>?@[\\]^|".contains c

/-- Whether every joiner stands behind a mark that asks for one. -/
def joinersFit : (before : Option Char) → List Char → Bool
  | _, [] => true
  | before, c :: cs =>
    -- Class 9 is that of the marks that join consonants.
    (!isJoiner c || (before.map fun b => markClass b == 9).getD false) && joinersFit (some c) cs

def isValidLabel (label : List Char) : Bool :=
  !((label.head?.map Text.isMark).getD false) && joinersFit none label

/-- The mark of labels that stand for others. -/
def aceMark : List Char := "xn--".toList

/-- Whether characters are those of a label in its one form, and not all of them are ASCII. -/
def isCanonical (label : List Char) : Bool :=
  label.any (!Punycode.isBasic ·) && label.all (fun c => map? c == some [c]) &&
    compose label == label

/-- The label that a mapped label stands for, if it is valid. -/
def label? (t : List Char) : Option (List Char) :=
  if t.any isForbidden then none
  else if aceMark.isPrefixOf t then
    if t.all Punycode.isBasic then
      -- A label in ASCII, or one that mapping would change, must not hide behind the mark.
      (Punycode.decode? (t.drop aceMark.length)).filter fun l => isCanonical l && isValidLabel l
    else none
  else if isValidLabel t then some t
  else none

def labelAscii (label : List Char) : List Char :=
  if label.all Punycode.isBasic then label else aceMark ++ Punycode.encode label

def toAscii? (t : List Char) : Option (List Char) := do
  let mapped ← t.mapM map?
  let labels ← (Text.split (· == '.') (compose mapped.flatten)).mapM label?
  if directionsFit labels then some (Text.join '.' (labels.map labelAscii)) else none

end Domain
end Uri
end EmbeddedSql

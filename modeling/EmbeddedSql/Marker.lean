import EmbeddedSql.Text.Blank

/-!
# Marker — comments that mark SQL

Three line comments matter: `// sql begin` and `// sql end` enclose a region, `// sql` and
`// sql syntax` hint at the construct behind them.  A marker is alone on its line; letter case and
the amount of white space do not matter, and the long s (U+017F) reads as `s`.

* `Marker.comment?` — the text of a line comment;
* `Marker.ofWords?` — the marker that the words of a comment spell;
* `Marker.ofLine?` — the marker that a line is, if it is one.

A line is at most one marker, since a marker is read off the words of the comment.
-/

namespace EmbeddedSql

inductive Marker where
  /-- `// sql begin` -/
  | opening
  /-- `// sql end` -/
  | closing
  /-- `// sql` or `// sql syntax` -/
  | hint
deriving DecidableEq, Repr

namespace Marker

/-- The letter a character stands for in a marker word. -/
def foldLetter (c : Char) : Char :=
  -- No other character outside ASCII folds to a letter of the words.
  if c = 'ſ' then 's' else c.toLower

def comment? (line : List Char) : Option (List Char) :=
  match Text.trimStart line with
  | '/' :: '/' :: body => some body
  | _ => none

def ofWords? (words : List (List Char)) : Option Marker :=
  if words = ["sql".toList, "begin".toList] then some .opening
  else if words = ["sql".toList, "end".toList] then some .closing
  else if words = ["sql".toList] ∨ words = ["sql".toList, "syntax".toList] then some .hint
  else none

def ofLine? (line : List Char) : Option Marker :=
  (comment? line).bind fun body => ofWords? ((Text.words body).map (·.map foldLetter))

end Marker
end EmbeddedSql

/-!
# Vocabulary — the fixed words of SQL

Three lists of words are known: keywords, functions and the two booleans.  Words are compared
without the case of ASCII letters.

* `Vocabulary.keywords`, `Vocabulary.functions`, `Vocabulary.booleans` — the lists;
* `Vocabulary.holds` — whether a list has a word.
-/

namespace EmbeddedSql
namespace Vocabulary

def keywords : List String :=
  ["SELECT", "FROM", "WHERE", "AND", "OR", "JOIN", "INNER", "LEFT", "RIGHT", "FULL", "OUTER",
    "ON", "GROUP", "BY", "HAVING", "ORDER", "INSERT", "INTO", "VALUES", "UPDATE", "SET", "DELETE",
    "CREATE", "ALTER", "DROP", "UNION", "ALL", "DISTINCT", "TOP", "LIMIT", "OFFSET", "CASE",
    "WHEN", "THEN", "ELSE", "END", "AS", "IS", "NOT", "NULL", "LIKE", "IN", "EXISTS", "WITH",
    "CROSS", "APPLY", "BETWEEN"]

def functions : List String :=
  ["COUNT", "SUM", "AVG", "MIN", "MAX", "UPPER", "LOWER", "COALESCE", "NVL", "LEN", "SUBSTRING",
    "ROUND", "CAST", "CONVERT"]

def booleans : List String :=
  ["true", "false"]

/-- A word in upper case, ASCII letters only. -/
def upper (word : List Char) : List Char :=
  word.map Char.toUpper

/-- Whether a list has a word, whatever the case of its letters. -/
def holds (vocabulary : List String) (word : List Char) : Bool :=
  vocabulary.any fun entry => upper entry.toList == upper word

end Vocabulary
end EmbeddedSql

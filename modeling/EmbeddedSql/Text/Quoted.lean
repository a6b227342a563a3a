import EmbeddedSql.Text.Printable

/-!
# Quoted — texts shown in messages

A text in a message stands between double quotes, with quotes, backslashes and characters that are
not printable escaped.

* `Text.escapeChar` — one character inside quotes;
* `Text.quoted` — a text between quotes.
-/

namespace EmbeddedSql
namespace Text

def escapeChar (c : Char) : List Char :=
  if c = '"' then ['\\', '"']
  else if c = '\\' then ['\\', '\\']
  else if c = '\t' then ['\\', 't']
  else if c = '\r' then ['\\', 'r']
  else if c = '\n' then ['\\', 'n']
  else if c.toNat = 0 then ['\\', '0']
  else if isPrintable c then [c]
  else '\\' :: 'u' :: '{' :: Nat.toDigits 16 c.toNat ++ ['}']

def quoted (s : String) : String :=
  "\"" ++ String.ofList (s.toList.flatMap escapeChar) ++ "\""

end Text
end EmbeddedSql

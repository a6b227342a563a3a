import EmbeddedSql.Text.Units

/-!
# Lexeme — words and marks

For most classes of tokens only the words of a text matter and what stands between them.  A text is
cut into its maximal runs of ASCII letters, digits and underscores, and into the single characters
between these runs.

* `Lexeme` — a word or a single other character;
* `Lexeme.cut` — the lexemes of a text;
* `Lexeme.isName`, `Lexeme.isNumeral` — words that do not begin with a digit, words of digits only.

The lexemes of a text, one after the other, are the text.
-/

namespace EmbeddedSql

/-- A word, or a character that belongs to none. -/
inductive Lexeme where
  | word (chars : List Char)
  | mark (c : Char)
deriving DecidableEq, Repr

namespace Lexeme

/-- ASCII letters, digits and the underscore. -/
def isWordChar (c : Char) : Bool :=
  c.isAlphanum || c == '_'

def chars : Lexeme → List Char
  | word w => w
  | mark c => [c]

def byteLength (l : Lexeme) : Nat :=
  Text.byteLength l.chars

def cut : List Char → List Lexeme
  | [] => []
  | c :: cs =>
    if isWordChar c then
      match cut cs with
      | word w :: rest => word (c :: w) :: rest
      -- Nothing or a mark follows, so a word ends here.
      | rest => word [c] :: rest
    else mark c :: cut cs

def spell (ls : List Lexeme) : List Char :=
  ls.flatMap chars

@[simp] theorem spell_cons (l : Lexeme) (ls : List Lexeme) :
    spell (l :: ls) = l.chars ++ spell ls :=
  rfl

theorem spell_cut (t : List Char) : spell (cut t) = t := by
  induction t with
  | nil => rfl
  | cons c cs ih =>
    simp only [cut]
    split
    · split
      · rename_i w rest h
        rw [h] at ih
        simpa [chars] using ih
      · simpa [chars] using ih
    · simpa [chars] using ih

/-- Whether a word begins like a name: with a letter or an underscore. -/
def isName : List Char → Bool
  | [] => false
  | c :: _ => !c.isDigit

def isNumeral (w : List Char) : Bool :=
  w.all Char.isDigit

end Lexeme
end EmbeddedSql

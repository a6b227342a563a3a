import EmbeddedSql.Category
import EmbeddedSql.Document
import EmbeddedSql.Lexeme
import EmbeddedSql.Text.Blank
import EmbeddedSql.Vocabulary

/-!
# Classification — the tokens of an SQL text

Each class of tokens has a pass of its own over the whole text, and the passes know nothing of each
other: a keyword is also an identifier, a string may hold numbers.

* `Classification.identifiers` — names, joined by single dots;
* `Classification.vocabularyWords` — the words of a fixed list;
* `Classification.parameters` — `@` and a name;
* `Classification.strings` — from one single quote to another;
* `Classification.numbers` — digits, with at most one fraction;
* `classify` — all passes, in pass order.

Spans are byte offsets into the text.
-/

namespace EmbeddedSql
namespace Classification

open Lexeme

/-! ## Passes over lexemes -/

/-- Names, of which those joined by one dot form a single token.  The lexemes start at `offset`. -/
def identifiers : (offset : Nat) → List Lexeme → List Span
  | _, [] => []
  | offset, word w :: mark '.' :: rest =>
    let stop := offset + Text.byteLength w
    let later := identifiers (stop + 1) rest
    if isName w then
      -- The token behind the dot is joined to the name if it begins there at once.
      match later with
      | next :: more =>
        if next.start = stop + 1 then ⟨offset, next.stop⟩ :: more
        else ⟨offset, stop⟩ :: next :: more
      | [] => [⟨offset, stop⟩]
    else later
  | offset, word w :: rest =>
    let stop := offset + Text.byteLength w
    if isName w then ⟨offset, stop⟩ :: identifiers stop rest else identifiers stop rest
  | offset, mark c :: rest => identifiers (offset + c.utf8Size) rest

def vocabularyWords (vocabulary : List String) : (offset : Nat) → List Lexeme → List Span
  | _, [] => []
  | offset, word w :: rest =>
    let stop := offset + Text.byteLength w
    if Vocabulary.holds vocabulary w then
      ⟨offset, stop⟩ :: vocabularyWords vocabulary stop rest
    else vocabularyWords vocabulary stop rest
  | offset, mark c :: rest => vocabularyWords vocabulary (offset + c.utf8Size) rest

/-- An `@` with a name right behind it.  The lexemes start at `offset`. -/
def parameters : (offset : Nat) → List Lexeme → List Span
  | _, [] => []
  | offset, mark '@' :: word w :: rest =>
    let stop := offset + 1 + Text.byteLength w
    if isName w then ⟨offset, stop⟩ :: parameters stop rest else parameters stop rest
  | offset, l :: rest => parameters (offset + l.byteLength) rest

/-- Words of digits, of which two joined by one dot form a single token.  The lexemes start at
`offset`. -/
def numbers : (offset : Nat) → List Lexeme → List Span
  | _, [] => []
  | offset, word w :: mark '.' :: word v :: rest =>
    let stop := offset + Text.byteLength w
    let farStop := stop + 1 + Text.byteLength v
    if isNumeral w then
      if isNumeral v then ⟨offset, farStop⟩ :: numbers farStop rest
      else ⟨offset, stop⟩ :: numbers (stop + 1) (word v :: rest)
    -- The word behind the dot may begin a number of its own.
    else numbers (stop + 1) (word v :: rest)
  | offset, word w :: rest =>
    let stop := offset + Text.byteLength w
    if isNumeral w then ⟨offset, stop⟩ :: numbers stop rest else numbers stop rest
  | offset, mark c :: rest => numbers (offset + c.utf8Size) rest

/-! ## Strings -/

/-- The bytes from behind an opening quote up to and including the quote that closes it, which is
not doubled if there is such a quote. -/
def closingBytes? : List Char → Option Nat
  | [] => none
  | '\'' :: '\'' :: cs =>
    match closingBytes? cs with
    | some n => some (n + 2)
    -- Nothing behind the pair closes, so its first half does.
    | none => some 1
  | c :: cs => if c = '\'' then some 1 else (closingBytes? cs).map (· + c.utf8Size)

/-- Strings of a text whose first character has offset `offset`.  Nothing starts in front of
`resume`. -/
def strings : (resume offset : Nat) → List Char → List Span
  | _, _, [] => []
  | resume, offset, c :: cs =>
    -- The character belongs to the string that was found last.
    if offset < resume then strings resume (offset + c.utf8Size) cs
    else if c = '\'' then
      match closingBytes? cs with
      | some n => ⟨offset, offset + 1 + n⟩ :: strings (offset + 1 + n) (offset + 1) cs
      | none => strings resume (offset + 1) cs
    else strings resume (offset + c.utf8Size) cs

/-- Whether a text, without the white space around it, has a single quote at both ends.  Such a text
stands between two holes inside one SQL string, so its quotes do not pair up with each other. -/
def isQuoteBounded (text : List Char) : Bool :=
  match Text.trim text with
  | c :: d :: cs => c == '\'' && (d :: cs).getLast? == some '\''
  | _ => false

/-! ## All passes -/

def pass (text : List Char) : Category → List Span
  | .identifier => identifiers 0 (cut text)
  | .keyword => vocabularyWords Vocabulary.keywords 0 (cut text)
  | .function => vocabularyWords Vocabulary.functions 0 (cut text)
  | .boolean => vocabularyWords Vocabulary.booleans 0 (cut text)
  | .parameter => parameters 0 (cut text)
  | .string => if isQuoteBounded text then [] else strings 0 0 text
  | .number => numbers 0 (cut text)

end Classification

def classify (text : List Char) : List (Category × Span) :=
  Category.passOrder.flatMap fun c => (Classification.pass text c).map (c, ·)

end EmbeddedSql

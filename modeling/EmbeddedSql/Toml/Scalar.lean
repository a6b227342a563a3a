import EmbeddedSql.Toml.Moment
import EmbeddedSql.Toml.Node

/-!
# Toml.Scalar — strings, numbers and truth values of the TOML format

Each reader takes a text and gives what it read and the text behind it, or nothing.

* `Toml.string?` — the four kinds of strings;
* `Toml.number?` — integers of 64 bits and doubles;
* `Toml.scalar?` — any of these, truth values, and moments.
-/

namespace EmbeddedSql
namespace Toml

def isSpace (c : Char) : Bool :=
  c == ' ' || c == '\t'

/-- Characters that may stand in strings and comments: all but controls, of which only the tab is
allowed. -/
def isTextChar (c : Char) : Bool :=
  c == '\t' || (0x20 ≤ c.toNat && c.toNat != 0x7F)

/-! ## Strings -/

/-- The character with a code in hexadecimal digits, if there is one. -/
def codeChar? (ds : List Char) : Option Char := do
  let values ← ds.mapM hexDigit?
  let n := values.foldl (fun n d => n * 16 + d) 0
  -- Surrogates are no characters.
  if n < 0xD800 ∨ (0xE000 ≤ n ∧ n < 0x110000) then some (Char.ofNat n) else none

def escape? : Char → Option Char
  | 'b' => some '\x08'
  | 't' => some '\t'
  | 'n' => some '\n'
  | 'f' => some '\x0c'
  | 'r' => some '\r'
  | '"' => some '"'
  | '\\' => some '\\'
  | _ => none

/-- A string up to its closing quote, in reverse behind `done`. -/
def basic? : (done : List Char) → List Char → Option (List Char × List Char)
  | _, [] => none
  | done, '"' :: cs => some (done.reverse, cs)
  | done, '\\' :: 'u' :: a :: b :: c :: d :: cs =>
    match codeChar? [a, b, c, d] with
    | some x => basic? (x :: done) cs
    | none => none
  | done, '\\' :: 'U' :: a :: b :: c :: d :: e :: f :: g :: h :: cs =>
    match codeChar? [a, b, c, d, e, f, g, h] with
    | some x => basic? (x :: done) cs
    | none => none
  | done, '\\' :: e :: cs =>
    match escape? e with
    | some x => basic? (x :: done) cs
    | none => none
  | done, c :: cs => if c != '\\' && isTextChar c then basic? (c :: done) cs else none

/-- A string without escapes up to its closing quote, in reverse behind `done`. -/
def literal? : (done : List Char) → List Char → Option (List Char × List Char)
  | _, [] => none
  | done, c :: cs =>
    if c = '\'' then some (done.reverse, cs)
    else if isTextChar c then literal? (c :: done) cs
    else none

/-- What a reader of a string over several lines does with blanks. -/
inductive Trim where
  | keep
  /-- Skip them up to the end of the line, where only blanks may stand. -/
  | line
  /-- Skip them, line breaks included. -/
  | all
deriving DecidableEq

/-- A string over several lines up to its closing quotes, in reverse behind `done`. -/
def basicLines? : (trim : Trim) → (done : List Char) → List Char →
    Option (List Char × List Char)
  | _, _, [] => none
  | .line, done, '\n' :: cs => basicLines? .all done cs
  | .line, done, '\r' :: '\n' :: cs => basicLines? .all done cs
  | .line, done, c :: cs => if isSpace c then basicLines? .line done cs else none
  | trim, done, '\n' :: cs =>
    if trim = .all then basicLines? .all done cs else basicLines? .keep ('\n' :: done) cs
  | trim, done, '\r' :: '\n' :: cs =>
    if trim = .all then basicLines? .all done cs else basicLines? .keep ('\n' :: done) cs
  -- Up to two quotes may stand right in front of the three that close.
  | _, done, '"' :: '"' :: '"' :: '"' :: '"' :: cs => some (('"' :: '"' :: done).reverse, cs)
  | _, done, '"' :: '"' :: '"' :: '"' :: cs => some (('"' :: done).reverse, cs)
  | _, done, '"' :: '"' :: '"' :: cs => some (done.reverse, cs)
  | _, done, '\\' :: 'u' :: a :: b :: c :: d :: cs =>
    match codeChar? [a, b, c, d] with
    | some x => basicLines? .keep (x :: done) cs
    | none => none
  | _, done, '\\' :: 'U' :: a :: b :: c :: d :: e :: f :: g :: h :: cs =>
    match codeChar? [a, b, c, d, e, f, g, h] with
    | some x => basicLines? .keep (x :: done) cs
    | none => none
  | _, done, '\\' :: '\r' :: '\n' :: cs => basicLines? .all done cs
  | _, done, '\\' :: e :: cs =>
    match escape? e with
    | some x => basicLines? .keep (x :: done) cs
    | none =>
      if e = '\n' then basicLines? .all done cs
      else if isSpace e then basicLines? .line done cs
      else none
  | trim, done, c :: cs =>
    if trim = .all && isSpace c then basicLines? .all done cs
    else if c != '\\' && isTextChar c then basicLines? .keep (c :: done) cs
    else none

/-- A string without escapes over several lines, in reverse behind `done`. -/
def literalLines? : (done : List Char) → List Char → Option (List Char × List Char)
  | _, [] => none
  | done, '\r' :: '\n' :: cs => literalLines? ('\n' :: done) cs
  | done, '\'' :: '\'' :: '\'' :: '\'' :: '\'' :: cs => some (('\'' :: '\'' :: done).reverse, cs)
  | done, '\'' :: '\'' :: '\'' :: '\'' :: cs => some (('\'' :: done).reverse, cs)
  | done, '\'' :: '\'' :: '\'' :: cs => some (done.reverse, cs)
  | done, c :: cs => if c = '\n' || isTextChar c then literalLines? (c :: done) cs else none

def dropBreak : List Char → List Char
  | '\n' :: cs => cs
  | '\r' :: '\n' :: cs => cs
  | cs => cs

def string? : List Char → Option (List Char × List Char)
  | '"' :: '"' :: '"' :: cs => basicLines? .keep [] (dropBreak cs)
  | '\'' :: '\'' :: '\'' :: cs => literalLines? [] (dropBreak cs)
  | '"' :: cs => basic? [] cs
  | '\'' :: cs => literal? [] cs
  | _ => none

/-! ## Numbers -/

/-- Further digits, each of which may have an underscore in front. -/
def moreDigits (p : Char → Bool) : List Char → List Char × List Char
  | [] => ([], [])
  | '_' :: c :: cs =>
    if p c then
      let (ds, rest) := moreDigits p cs
      (c :: ds, rest)
    else ([], '_' :: c :: cs)
  | c :: cs =>
    if p c then
      let (ds, rest) := moreDigits p cs
      (c :: ds, rest)
    else ([], c :: cs)

def digits? (p : Char → Bool) : List Char → Option (List Char × List Char)
  | [] => none
  | c :: cs =>
    if p c then
      let (ds, rest) := moreDigits p cs
      some (c :: ds, rest)
    else none

/-- Digits of a decimal integer: a zero stands alone. -/
def wholeDigits? : List Char → Option (List Char × List Char)
  | '0' :: cs => some (['0'], cs)
  | cs => digits? Char.isDigit cs

/-- An integer, if it fits 64 bits. -/
def intNode? (i : Int) : Option Node :=
  if -(Nat.pow 2 63 : Int) ≤ i ∧ i < Nat.pow 2 63 then some (.int i) else none

/-- The fraction that a text begins with; without a point it is empty. -/
def fraction? : List Char → Option (List Char × List Char)
  | '.' :: cs => digits? Char.isDigit cs
  | cs => some ([], cs)

/-- The digits of an exponent, with its sign. -/
def signedExponent? : List Char → Option (Int × List Char)
  | '-' :: cs => (digits? Char.isDigit cs).map fun (ds, rest) => (-(digitsValue 10 ds : Int), rest)
  | '+' :: cs => (digits? Char.isDigit cs).map fun (ds, rest) => (digitsValue 10 ds, rest)
  | cs => (digits? Char.isDigit cs).map fun (ds, rest) => (digitsValue 10 ds, rest)

/-- The exponent that a text begins with; without a mark it is zero. -/
def exponent? : List Char → Option (Int × List Char)
  | 'e' :: cs => signedExponent? cs
  | 'E' :: cs => signedExponent? cs
  | cs => some (0, cs)

/-- A double from its digits, unless it is too large. -/
def floatNode? (negative : Bool) (whole places : List Char) (exponent : Int) : Option Node :=
  let f := Binary64.ofDecimal negative (digitsValue 10 (whole ++ places)) (exponent - places.length)
  -- Only a positive number that is too large is refused.
  if f = .infinity false then none else some (.float f)

/-- A decimal number without its sign. -/
def decimal? (negative : Bool) (cs : List Char) : Option (Node × List Char) := do
  let (whole, rest) ← wholeDigits? cs
  match rest with
  | '.' :: _ | 'e' :: _ | 'E' :: _ =>
    let (places, rest) ← fraction? rest
    let (exponent, rest) ← exponent? rest
    some (← floatNode? negative whole places exponent, rest)
  | _ =>
    let n := digitsValue 10 whole
    some (← intNode? (if negative then -(n : Int) else n), rest)

/-- A number without its sign; infinity and not-a-number have names. -/
def unsignedNumber? (negative : Bool) : List Char → Option (Node × List Char)
  | 'i' :: 'n' :: 'f' :: cs => some (.float (.infinity negative), cs)
  | 'n' :: 'a' :: 'n' :: cs => some (.float .nan, cs)
  | cs => decimal? negative cs

def based? (base : Nat) (p : Char → Bool) (cs : List Char) : Option (Node × List Char) := do
  let (ds, rest) ← digits? p cs
  some (← intNode? (digitsValue base ds), rest)

def number? : List Char → Option (Node × List Char)
  | '0' :: 'x' :: cs => based? 16 (fun c => (hexDigit? c).isSome) cs
  | '0' :: 'o' :: cs => based? 8 (fun c => '0' ≤ c && c ≤ '7') cs
  | '0' :: 'b' :: cs => based? 2 (fun c => c == '0' || c == '1') cs
  | '+' :: cs => unsignedNumber? false cs
  | '-' :: cs => unsignedNumber? true cs
  | cs => unsignedNumber? false cs

/-! ## All -/

def scalar? : List Char → Option (Node × List Char)
  | 't' :: 'r' :: 'u' :: 'e' :: cs => some (.bool true, cs)
  | 'f' :: 'a' :: 'l' :: 's' :: 'e' :: cs => some (.bool false, cs)
  | '"' :: cs => (string? ('"' :: cs)).map fun (s, rest) => (.str (String.ofList s), rest)
  | '\'' :: cs => (string? ('\'' :: cs)).map fun (s, rest) => (.str (String.ofList s), rest)
  | cs => ((moment? cs).map fun (text, rest) => (.moment text, rest)).or (number? cs)

end Toml
end EmbeddedSql

import EmbeddedSql.Toml.Marked
import EmbeddedSql.Toml.Scalar

/-!
# Toml.Reader — documents from text

* `Toml.key?` — a dotted key;
* `Toml.value?` — a value of any kind;
* `Toml.statements?` — the statements of a document;
* `Toml.parse?` — what a text describes: a table, or the moment that it stands for.

Arrays and tables in braces may stand inside each other up to a depth, and a dotted key has a
bounded number of names; both bounds are `Toml.deepest`.
-/

namespace EmbeddedSql
namespace Toml

/-- How deep values may be nested, and how many names a dotted key may have. -/
def deepest : Nat := 79

/-! ## Blanks and comments -/

/-- A text without the spaces and tabs in front of it. -/
def skipSpace (cs : List Char) : List Char :=
  cs.dropWhile isSpace

/-- What follows the rest of a line, on which only a comment may stand.  `inComment` says whether it
has begun. -/
def endLine? : (inComment : Bool) → List Char → Option (List Char)
  | _, [] => some []
  | _, '\n' :: cs => some cs
  | _, '\r' :: '\n' :: cs => some cs
  | true, c :: cs => if isTextChar c then endLine? true cs else none
  | false, c :: cs =>
    if isSpace c then endLine? false cs else if c = '#' then endLine? true cs else none

/-- A text without the blanks, line breaks and comments in front of it. -/
def skipFiller? : (inComment : Bool) → List Char → Option (List Char)
  | _, [] => some []
  | _, '\n' :: cs => skipFiller? false cs
  | _, '\r' :: '\n' :: cs => skipFiller? false cs
  | true, c :: cs => if isTextChar c then skipFiller? true cs else none
  | false, c :: cs =>
    if isSpace c then skipFiller? false cs
    else if c = '#' then skipFiller? true cs
    else some (c :: cs)

/-! ## Keys -/

def isBareChar (c : Char) : Bool :=
  c.isAlphanum || c == '_' || c == '-'

def name? : List Char → Option (String × List Char)
  | '"' :: cs => (basic? [] cs).map fun (s, rest) => (String.ofList s, rest)
  | '\'' :: cs => (literal? [] cs).map fun (s, rest) => (String.ofList s, rest)
  | cs =>
    let bare := cs.takeWhile isBareChar
    if bare.isEmpty then none else some (String.ofList bare, cs.dropWhile isBareChar)

/-- A dotted key of at most so many names: the names in front, and the last one. -/
def names? : (most : Nat) → List Char → Option (List String × String × List Char)
  | 0, _ => none
  | most + 1, cs =>
    match name? (skipSpace cs) with
    | none => none
    | some (name, rest) =>
      match skipSpace rest with
      | '.' :: cs =>
        match names? most cs with
        | some (path, last, rest) => some (name :: path, last, rest)
        | none => none
      | rest => some ([], name, rest)

def key? (cs : List Char) : Option (List String × String × List Char) :=
  names? deepest cs

/-! ## Values -/

mutual

/-- A value of at most so many levels.  The fuel bounds the number of values and settings inside
it. -/
def value? : (fuel levels : Nat) → List Char → Option (Node × List Char)
  | 0, _, _ => none
  -- Deeper than this nothing may be nested.
  | _ + 1, 0, '[' :: _ => none
  | _ + 1, 0, '{' :: _ => none
  | fuel + 1, levels + 1, '[' :: cs => items? fuel levels [] cs
  | fuel + 1, levels + 1, '{' :: cs =>
    match skipSpace cs with
    | '}' :: rest => some (.closed [], rest)
    | cs => settings? fuel levels [] cs
  | _ + 1, _, cs => scalar? cs

/-- The items of an array up to its closing bracket, in reverse behind `done`. -/
def items? : (fuel levels : Nat) → (done : List Node) → List Char → Option (Node × List Char)
  | 0, _, _, _ => none
  | fuel + 1, levels, done, cs =>
    match skipFiller? false cs with
    | none => none
    -- An array may end in a comma, a table in braces may not.
    | some (']' :: rest) => some (.list done.reverse, rest)
    | some cs =>
      match value? fuel levels cs with
      | none => none
      | some (v, rest) =>
        match skipFiller? false rest with
        | some (',' :: rest) => items? fuel levels (v :: done) rest
        | some (']' :: rest) => some (.list (v :: done).reverse, rest)
        | _ => none

/-- The settings between two braces, in reverse behind `done`. -/
def settings? : (fuel levels : Nat) → (done : List (List String × String × Node)) → List Char →
    Option (Node × List Char)
  | 0, _, _, _ => none
  | fuel + 1, levels, done, cs =>
    match key? cs with
    | some (path, name, '=' :: rest) =>
      match value? fuel levels (skipSpace rest) with
      | none => none
      | some (v, rest) =>
        let done := (path, name, v) :: done
        match skipSpace rest with
        | ',' :: rest => settings? fuel levels done rest
        | '}' :: rest => (buildClosed? done.reverse).map fun node => (node, rest)
        | _ => none
    | _ => none

end

/-! ## Documents -/

def statement? (cs : List Char) : Option (Statement × List Char) := do
  match cs with
  | '[' :: '[' :: cs =>
    match ← key? cs with
    | (path, name, ']' :: ']' :: rest) => some (.arrayHeader path name, ← endLine? false rest)
    | _ => none
  | '[' :: cs =>
    match ← key? cs with
    | (path, name, ']' :: rest) => some (.header path name, ← endLine? false rest)
    | _ => none
  | cs =>
    match ← key? cs with
    | (path, name, '=' :: rest) =>
      let (v, rest) ← value? (cs.length + 1) deepest (skipSpace rest)
      some (.setting path name v, ← endLine? false rest)
    | _ => none

/-- The statements of a text, in reverse behind `done`.  The fuel bounds their number. -/
def statements? : (fuel : Nat) → (done : List Statement) → List Char → Option (List Statement)
  | 0, _, _ => none
  | fuel + 1, done, cs =>
    match skipFiller? false cs with
    | none => none
    | some [] => some done.reverse
    | some cs =>
      match statement? cs with
      | none => none
      | some (s, rest) => statements? fuel (s :: done) rest

/-- A text without the byte order mark that it begins with. -/
def dropMark : List Char → List Char
  | c :: cs => if c.toNat = 0xFEFF then cs else c :: cs
  | [] => []

/-- What characters describe: a table, or the moment that it stands for. -/
def parseChars? (cs : List Char) : Option Node := do
  let cs := dropMark cs
  let statements ← statements? (cs.length + 1) [] cs
  unmarkTable? (← build? statements)

def parse? (s : String) : Option Node :=
  parseChars? s.toList

end Toml
end EmbeddedSql

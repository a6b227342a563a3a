import EmbeddedSql.Config.Value

/-!
# Config.Path — places inside a table

A path such as `highlight.languages[0]` names a member of a member, or an item of an array.

* `Config.Path` — a name and the steps behind it;
* `Config.Path.parse` — the path that a text spells, or why it spells none;
* `Config.Path.set` — store a value at a path, making room for it on the way.
-/

namespace EmbeddedSql
namespace Config

/-- A step into a value. -/
inductive Step where
  | member (name : String)
  /-- An item of an array; a negative index counts from the end. -/
  | item (index : Int)
deriving DecidableEq, Repr

/-- A member of a table, and the steps from there. -/
structure Path where
  root : String
  steps : List Step
deriving DecidableEq, Repr

inductive PathError where
  | name
  /-- A bracket, or a dot with a name behind it. -/
  | continuation
  /-- Digits behind a bracket. -/
  | digits
  /-- An index of 64 bits. -/
  | bounds
deriving DecidableEq, Repr

namespace PathError

def message : PathError → String
  | name => "IsA"
  | continuation => "Char"
  | digits => "Digit"
  | bounds => "Map on Result"

end PathError

namespace Path

/-! ## Reading -/

def isNameChar (c : Char) : Bool :=
  c.isAlphanum || c == ' ' || c == '_' || c == '-'

def isIndexBlank (c : Char) : Bool :=
  c == ' ' || c == '\t'

def digitsValue (ds : List Char) : Nat :=
  ds.foldl (fun n d => n * 10 + (d.toNat - '0'.toNat)) 0

/-- An index without its sign, and the closing bracket. -/
def indexBody (negative : Bool) (cs : List Char) : Except PathError (Int × List Char) :=
  let ds := cs.takeWhile Char.isDigit
  if ds.isEmpty then .error .digits
  else
    let i : Int := if negative then -(digitsValue ds : Int) else digitsValue ds
    if i < -(Nat.pow 2 63 : Int) ∨ Nat.pow 2 63 ≤ i then .error .bounds
    else
      match (cs.dropWhile Char.isDigit).dropWhile isIndexBlank with
      | ']' :: rest => .ok (i, rest)
      | _ => .error .continuation

/-- What stands behind an opening bracket: an index and the closing bracket. -/
def index (cs : List Char) : Except PathError (Int × List Char) :=
  match cs.dropWhile isIndexBlank with
  | '-' :: rest => indexBody true rest
  | rest => indexBody false rest

/-- The steps that a text spells.  The fuel bounds their number. -/
def readSteps : (fuel : Nat) → List Char → Except PathError (List Step)
  | _, [] => .ok []
  -- Not reached from `parse`: every step takes a character at least.
  | 0, _ => .error .continuation
  | fuel + 1, '.' :: cs =>
    let name := cs.takeWhile isNameChar
    if name.isEmpty then .error .continuation
    else
      match readSteps fuel (cs.dropWhile isNameChar) with
      | .ok steps => .ok (.member (String.ofList name) :: steps)
      | .error e => .error e
  | fuel + 1, '[' :: cs =>
    match index cs with
    | .error e => .error e
    | .ok (i, rest) =>
      match readSteps fuel rest with
      | .ok steps => .ok (.item i :: steps)
      | .error e => .error e
  | _ + 1, _ => .error .continuation

def parse (s : String) : Except PathError Path :=
  let cs := s.toList
  let name := cs.takeWhile isNameChar
  if name.isEmpty then .error .name
  else
    match readSteps cs.length (cs.dropWhile isNameChar) with
    | .ok steps => .ok ⟨String.ofList name, steps⟩
    | .error e => .error e

/-! ## Storing -/

/-- Store an item of an array.  A value that is no array becomes an empty array first, and an array
that is too short is filled with null. -/
def putItem (index : Int) (f : Value → Value) (v : Value) : Value :=
  let (origin, items) :=
    match v with
    | .array o items => (o, items)
    | _ => (none, [])
  -- An index that counts back beyond the front leads to the front.
  let i := if 0 ≤ index then index.toNat else items.length - index.natAbs
  let items := items ++ List.replicate (i + 1 - items.length) Value.null
  .array origin (items.set i (f (items.getD i Value.null)))

/-- Store a value behind the given steps.  A member at the end is assigned, so tables are merged; an
item at the end is replaced. -/
def store (value : Value) : List Step → Value → Value
  | [], _ => value
  | [.member name], target => target.assign name value
  | .member name :: step :: rest, target =>
    let key := Text.lowerString name
    target.put key (store value (step :: rest) ((target.get? key).getD Value.null))
  | .item i :: rest, target => putItem i (store value rest) target

def set (path : Path) (value : Value) (target : Value) : Value :=
  store value (.member path.root :: path.steps) target

end Path
end Config
end EmbeddedSql

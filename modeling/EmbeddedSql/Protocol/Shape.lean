import EmbeddedSql.Protocol.Mismatch
import EmbeddedSql.Uri.Parser

/-!
# Protocol.Shape — what parameters have to look like

The parameters of a message have a shape: records with named fields, lists, texts, numbers and so
on. Reading a value by its shape checks it and brings it to a normal form, in which every record is
an object of the fields that are there and every address is in normal form.

* `Protocol.Shape` — the shapes;
* `Protocol.Presence` — when a field may be absent;
* `Protocol.Entry.collect` — the fields of a record, or the first thing that is wrong with them;
* `Protocol.Shape.read` — a value read by its shape.

A record may be written as an object, whose members are looked at in the order of their names, or as
an array of its fields in order.  What is wrong with a member is told before what is absent.
-/

namespace EmbeddedSql
namespace Protocol

inductive Shape where
  | any
  | truth
  | text
  /-- An integer of 32 bits that is not negative. -/
  | unsigned
  /-- An integer of 32 bits. -/
  | signed
  | decimal
  | address
  /-- Null, or the shape. -/
  | optional (shape : Shape)
  /-- The shape; a field of it may be absent wherever it stands. -/
  | defaulted (shape : Shape)
  /-- Null, a truth value, or the shape. -/
  | orFlag (shape : Shape)
  | list (item : Shape)
  /-- Two of a shape. -/
  | pair (item : Shape)
  /-- An object whose members all have one shape, and names that may have to be addresses. -/
  | table (expected : String) (addressed : Bool) (value : Shape)
  | word (words : List String)
  | either (name : String) (options : List Shape)
  /-- Named fields in order. -/
  | record (name : String) (fields : List (String × Shape))
  /-- Named fields, with the fields of other records beside them. -/
  | joined (name : String) (fields : List (String × Shape)) (others : List (List (String × Shape)))
  /-- Named fields, with further members of one shape beside them. -/
  | extended (name : String) (fields : List (String × Shape)) (rest : Shape)

inductive Presence where
  | required
  /-- From an object. -/
  | optional
  /-- From an object and from the end of an array. -/
  | defaulted
deriving DecidableEq, Repr

namespace Shape

def presence : Shape → Presence
  | optional _ => .optional
  | defaulted _ => .defaulted
  | _ => .required

/-! ## Leaves -/

/-- An integer between bounds. -/
def readInteger (least most : Int) (expected : String) : Json → Except Mismatch Json
  | .num (.int i) =>
    if least ≤ i ∧ i ≤ most then .ok (.num (.int i)) else .error (.outOfRange i expected)
  | j => .error (.wrongKind j expected)

/-- An address in normal form. -/
def readAddress : Json → Except Mismatch Json
  | .str s =>
    match Uri.parse s with
    | .ok uri => .ok (.str uri.text)
    | .error cause => .error (.badUri s cause)
  | j => .error (.wrongKind j "a string representing an URL")

/-- One of several words.  An object with one member names a word, and has null for it. -/
def readWord (words : List String) : Json → Except Mismatch Json
  | .str s => if words.contains s then .ok (.str s) else .error (.unknownWord s words)
  | .obj [(name, value)] =>
    if words.contains name then
      match value with
      | .null => .ok (.str name)
      | v => .error (.wrongKind v "unit")
    else .error (.unknownWord name words)
  | .obj _ => .error .notOneWord
  | j => .error (.wrongKind j "string or map")

def readLeaf : Shape → Json → Except Mismatch Json
  | .truth, .bool b => .ok (.bool b)
  | .truth, j => .error (.wrongKind j "a boolean")
  | .text, .str s => .ok (.str s)
  | .text, j => .error (.wrongKind j "a string")
  | .unsigned, j => readInteger 0 (Nat.pow 2 32 - 1) "u32" j
  | .signed, j => readInteger (-Nat.pow 2 31) (Nat.pow 2 31 - 1) "i32" j
  | .decimal, .num n => .ok (.num n)
  | .decimal, j => .error (.wrongKind j "f32")
  | .address, j => readAddress j
  | .word words, j => readWord words j
  | _, j => .ok j

end Shape

/-! ## Records -/

/-- A field of a record, and what was read for it. -/
structure Entry where
  name : String
  presence : Presence
  result : Option (Except Mismatch Json)

namespace Entry

def fault? (e : Entry) : Option Mismatch :=
  match e.result with
  | some (.error m) => some m
  | _ => none

def isMissing (e : Entry) : Bool :=
  e.presence == .required && e.result.isNone

def member? (e : Entry) : Option (String × Json) :=
  match e.result with
  | some (.ok v) => some (e.name, v)
  | _ => none

/-- The fields that are there: unless something is wrong with one of them, of which the first by
name is told, or one is absent, of which the first in order is told. -/
def collect (entries : List Entry) : Except Mismatch (List (String × Json)) :=
  let byName := entries.mergeSort fun a b => decide (a.name ≤ b.name)
  match byName.findSome? fault? with
  | some m => .error m
  | none =>
    match entries.find? isMissing with
    | some e => .error (.missing e.name)
    | none => .ok (entries.filterMap member?)

end Entry

def tooLong (joined : Bool) (length size : Nat) : Mismatch :=
  if joined then .tooLongFor length size else .tooLong length

/-! ## Reading -/

mutual

/-- A value read by its shape.  `joined` says whether its record stands beside others. -/
def Shape.read (joined : Bool) : Shape → Json → Except Mismatch Json
  | .optional s, j =>
    match j with
    | .null => .ok .null
    | j => s.read joined j
  | .defaulted s, j => s.read joined j
  | .orFlag s, j =>
    match j with
    | .null => .ok .null
    | .bool b => .ok (.bool b)
    | j => s.read joined j
  | .list s, j =>
    match j with
    | .arr items => (items.mapM (s.read joined)).map .arr
    | j => .error (.wrongKind j "a sequence")
  | .pair s, j =>
    match j with
    | .arr [a, b] => do return .arr [← s.read joined a, ← s.read joined b]
    | j => .error (.wrongKind j "an array of length 2")
  | .table expected addressed s, j =>
    match j with
    | .obj members =>
      (members.mapM fun (name, v) => do
        -- The name is checked but kept as it was written.
        if addressed then let _ ← Shape.readAddress (.str name)
        return (name, ← s.read joined v)).map .obj
    | j => .error (.wrongKind j expected)
  | .either name options, j =>
    match readFirst options j with
    | some v => .ok v
    | none => .error (.noneOf name)
  | .record name fields, j =>
    match j with
    | .obj members => (Entry.collect (readFields joined fields members)).map .obj
    | .arr items =>
      (readItems joined name fields.length 0 fields items).bind fun members =>
        if fields.length < items.length then .error (tooLong joined items.length fields.length)
        else .ok (.obj members)
    | j => .error (.wrongKind j ("struct " ++ name))
  | .joined name fields others, j =>
    match j with
    | .obj members => do
      let own ← Entry.collect (readFields joined fields members)
      let more ← readOthers others members
      return .obj (own ++ more)
    | j => .error (.wrongKind j ("struct " ++ name))
  | .extended name fields rest, j =>
    match j with
    | .obj members => do
      let own ← Entry.collect (readFields joined fields members)
      -- All that is no field of the record itself.
      let others := members.filter fun (name, _) => !(fields.map (·.1)).contains name
      let more ← others.mapM fun (name, v) => return (name, ← rest.read true v)
      return .obj (own ++ more)
    | j => .error (.wrongKind j ("struct " ++ name))
  | shape, j => Shape.readLeaf shape j

def readFirst : List Shape → Json → Option Json
  | [], _ => none
  | s :: rest, j =>
    match s.read true j with
    | .ok v => some v
    | .error _ => readFirst rest j

/-- The fields of a record among the members of an object. -/
def readFields (joined : Bool) : List (String × Shape) → List (String × Json) → List Entry
  | [], _ => []
  | (name, s) :: rest, members =>
    ⟨name, s.presence, (Assoc.get? name members).map (s.read joined)⟩ ::
      readFields joined rest members

/-- The fields of a record among the items of an array, from an index on. -/
def readItems (joined : Bool) (record : String) (size : Nat) :
    (index : Nat) → List (String × Shape) → List Json → Except Mismatch (List (String × Json))
  | _, [], _ => .ok []
  | index, (_, s) :: rest, [] =>
    -- Only what has a default may be absent from the end of an array.
    if s.presence = .defaulted then readItems joined record size (index + 1) rest []
    else .error (.tooShort index record size)
  | index, (name, s) :: rest, v :: vs => do
    let v ← s.read joined v
    let members ← readItems joined record size (index + 1) rest vs
    return (name, v) :: members

/-- The fields of records that stand beside another one, record by record. -/
def readOthers : List (List (String × Shape)) → List (String × Json) →
    Except Mismatch (List (String × Json))
  | [], _ => .ok []
  | fields :: rest, members => do
    let first ← Entry.collect (readFields true fields members)
    let more ← readOthers rest members
    return first ++ more

end

end Protocol
end EmbeddedSql

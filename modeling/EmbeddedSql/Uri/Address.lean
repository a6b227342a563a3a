import EmbeddedSql.Text.Split
import EmbeddedSql.Uri.Percent

/-!
# Uri.Address — hosts that are numbers

* `Uri.Ipv4.isNumeric` — whether a host has to be an address of four bytes;
* `Uri.Ipv4.ofText?` — an address of four bytes, of which the last number may stand for several;
* `Uri.Ipv6.ofText?` — an address of eight pieces, of which a run of zeros may be left out;
* `Uri.Ipv4.text`, `Uri.Ipv6.text` — their normal forms.
-/

namespace EmbeddedSql
namespace Uri

/-- The number that digits denote in a base, if all of them are digits of that base. -/
def number? (base : Nat) (ds : List Char) : Option Nat :=
  ds.foldlM
    (fun n d => (hexValue? d).bind fun v => if v < base then some (n * base + v) else none) 0

/-! ## Four bytes -/

namespace Ipv4

/-- One number of an address: in base sixteen behind `0x`, in base eight behind another zero. -/
def part? : List Char → Option Nat
  | [] => none
  -- No digits at all behind the prefix denote zero.
  | '0' :: 'x' :: ds => number? 16 ds
  | '0' :: 'X' :: ds => number? 16 ds
  | '0' :: d :: ds => number? 8 (d :: ds)
  | ds => number? 10 ds

/-- The parts of a host between dots; a dot at the end does not count. -/
def parts (host : List Char) : List (List Char) :=
  let pieces := Text.split (· == '.') host
  if 1 < pieces.length && pieces.getLast? == some [] then pieces.dropLast else pieces

/-- Whether the last part of a host is a number, so that the host has to be an address. -/
def isNumeric (host : List Char) : Bool :=
  match (parts host).getLast? with
  | none => false
  | some last => (!last.isEmpty && last.all Char.isDigit) || (part? last).isSome

/-- The address whose leading bytes and remaining bytes are given. -/
def assemble (leading : List Nat) (rest : Nat) : Nat :=
  (leading.zipIdx.map fun (n, i) => n * Nat.pow 256 (3 - i)).foldr Nat.add rest

/-- The address that a host spells. -/
def ofText? (host : List Char) : Option Nat := do
  let numbers ← (parts host).mapM part?
  let rest ← numbers.getLast?
  let leading := numbers.dropLast
  if leading.length ≤ 3 ∧ leading.all (· ≤ 255) ∧ rest < Nat.pow 256 (4 - leading.length) then
    some (assemble leading rest)
  else none

/-- The normal form of an address: four bytes divided by dots. -/
def text (n : Nat) : List Char :=
  let bytes := [n / Nat.pow 256 3, n / Nat.pow 256 2 % 256, n / 256 % 256, n % 256]
  Text.join '.' (bytes.map (Nat.toDigits 10))

end Ipv4

/-! ## Eight pieces -/

namespace Ipv6

def piece? (ds : List Char) : Option Nat :=
  if ds.isEmpty || 4 < ds.length then none else number? 16 ds

/-- A byte in base ten, without superfluous zeros. -/
def byte? (ds : List Char) : Option Nat :=
  match ds with
  | [] => none
  | '0' :: _ :: _ => none
  | ds => (number? 10 ds).bind fun n => if n ≤ 255 then some n else none

/-- Two pieces written as four bytes. -/
def dotted? (t : List Char) : Option (List Nat) := do
  match ← (Text.split (· == '.') t).mapM byte? with
  | [a, b, c, d] => some [a * 256 + b, c * 256 + d]
  | _ => none

/-- The pieces between colons.  The last one may be written as four bytes where `dotted` allows it.
-/
def pieces? (dotted : Bool) : List (List Char) → Option (List Nat)
  | [] => some []
  | [last] => if dotted && last.contains '.' then dotted? last else (piece? last).map ([·])
  | p :: rest => do
    let n ← piece? p
    let ns ← pieces? dotted rest
    some (n :: ns)

/-- The pieces of a text, which may be empty. -/
def group? (dotted : Bool) (t : List Char) : Option (List Nat) :=
  if t.isEmpty then some [] else pieces? dotted (Text.split (· == ':') t)

/-- The texts in front of and behind the first two colons in a row. -/
def splitGap? : List Char → Option (List Char × List Char)
  | [] => none
  | ':' :: ':' :: rest => some ([], rest)
  | c :: cs => (splitGap? cs).map fun (before, behind) => (c :: before, behind)

/-- The eight pieces that a text spells.  Two colons in a row stand for one or more zeros. -/
def ofText? (t : List Char) : Option (List Nat) :=
  match splitGap? t with
  | none => (group? true t).bind fun ns => if ns.length = 8 then some ns else none
  | some (before, behind) => do
    let left ← group? false before
    let right ← group? true behind
    let known := left.length + right.length
    -- The gap stands for one zero at least.
    if known ≤ 7 then some (left ++ List.replicate (8 - known) 0 ++ right) else none

/-- A run of zeros: where it begins and how long it is. -/
structure ZeroRun where
  start : Nat
  length : Nat
deriving DecidableEq, Repr

/-- The first longest run of zeros from an index on, among those read so far and the present one. -/
def longestZeros (best current : ZeroRun) (index : Nat) : List Nat → ZeroRun
  | [] => best
  | n :: ns =>
    if n = 0 then
      let current : ZeroRun :=
        if current.length = 0 then ⟨index, 1⟩ else ⟨current.start, current.length + 1⟩
      longestZeros (if best.length < current.length then current else best) current (index + 1) ns
    else longestZeros best ⟨0, 0⟩ (index + 1) ns

def pieceText (n : Nat) : List Char :=
  Nat.toDigits 16 n

/-- The normal form of an address: the first longest run of zeros is left out. -/
def text (pieces : List Nat) : List Char :=
  let run := longestZeros ⟨0, 0⟩ ⟨0, 0⟩ 0 pieces
  let shown (ns : List Nat) : List Char := Text.join ':' (ns.map pieceText)
  -- A single zero is written out.
  if run.length < 2 then shown pieces
  else shown (pieces.take run.start) ++ ':' :: ':' :: shown (pieces.drop (run.start + run.length))

end Ipv6

end Uri
end EmbeddedSql

import EmbeddedSql.Document

/-!
# Interpolation — text between the holes of an interpolated literal

An interpolated literal alternates between runs of text and holes `{…}`.  Outside a hole `{{` and
`}}` are escaped braces and stay in the run.  Inside a hole braces nest, and a quote starts a string
in which only the same quote, not behind a backslash, counts.  A hole that is never closed hides the
rest of the literal.

* `Interpolation.State` — where the scan stands;
* `Interpolation.scan` — the runs of the text that is still to come;
* `Interpolation.runs` — the nonempty runs of a text, in order.

The scan takes the quotes that open strings inside a hole as a parameter, so that scans that differ
only in this can be compared.
-/

namespace EmbeddedSql
namespace Interpolation

inductive State where
  /-- In a run that started at an offset. -/
  | run (start : Nat)
  /-- In a hole, with `inner` nested braces open. -/
  | hole (inner : Nat)
  /-- In a string inside a hole. -/
  | quoted (inner : Nat) (quote : Char)
  /-- Behind a backslash in a string inside a hole. -/
  | escaped (inner : Nat) (quote : Char)
deriving DecidableEq, Repr

def State.quote? : State → Option Char
  | .run _ => none
  | .hole _ => none
  | .quoted _ quote => some quote
  | .escaped _ quote => some quote

/-- A run, unless it is empty. -/
def emit (start stop : Nat) : List Span :=
  if start < stop then [⟨start, stop⟩] else []

/-- The runs of the text that is still to come, which starts at offset `offset`. -/
def scan (isQuote : Char → Bool) : State → (offset : Nat) → List Char → List Span
  | .run start, offset, [] => emit start offset
  -- Escaped braces stay in the run.
  | .run start, offset, '{' :: '{' :: cs => scan isQuote (.run start) (offset + 2) cs
  | .run start, offset, '}' :: '}' :: cs => scan isQuote (.run start) (offset + 2) cs
  | .run start, offset, c :: cs =>
    if c = '{' then emit start offset ++ scan isQuote (.hole 0) (offset + 1) cs
    else scan isQuote (.run start) (offset + c.utf8Size) cs
  -- A hole that is still open here has no run behind it.
  | .hole _, _, [] => []
  | .hole inner, offset, c :: cs =>
    if isQuote c then scan isQuote (.quoted inner c) (offset + c.utf8Size) cs
    else if c = '{' then scan isQuote (.hole (inner + 1)) (offset + 1) cs
    else if c = '}' then
      match inner with
      -- This brace ends the hole; the next run starts behind it.
      | 0 => scan isQuote (.run (offset + 1)) (offset + 1) cs
      | outer + 1 => scan isQuote (.hole outer) (offset + 1) cs
    else scan isQuote (.hole inner) (offset + c.utf8Size) cs
  | .quoted _ _, _, [] => []
  | .quoted inner quote, offset, c :: cs =>
    if c = '\\' then scan isQuote (.escaped inner quote) (offset + 1) cs
    else if c = quote then scan isQuote (.hole inner) (offset + c.utf8Size) cs
    else scan isQuote (.quoted inner quote) (offset + c.utf8Size) cs
  | .escaped _ _, _, [] => []
  | .escaped inner quote, offset, c :: cs =>
    scan isQuote (.quoted inner quote) (offset + c.utf8Size) cs

@[simp] theorem scan_run_nil (isQuote : Char → Bool) (start offset : Nat) :
    scan isQuote (.run start) offset [] = emit start offset := by
  rw [scan]

def isQuote (c : Char) : Bool :=
  c == '"' || c == '\''

def runs (text : List Char) : List Span :=
  scan isQuote (.run 0) 0 text

end Interpolation
end EmbeddedSql

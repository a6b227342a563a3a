import EmbeddedSql.Editor.Position
import EmbeddedSql.Highlights

/-!
# Editor.SemanticTokens — one token per character

Tokens overlap, but an editor wants each character in one token at most.  The tokens are painted
over the bytes in pass order, so that the class of the later pass is seen, and within a class the
later token.  What is seen of each token is then cut into pieces by lines, and each piece is written
relative to the one before it.

* `Editor.owner?` — the token that is seen at a byte;
* `Editor.visibleRuns` — the maximal runs of bytes that show the same token;
* `Editor.Mark` — a piece of a line and its class;
* `Editor.marks` — what is seen, line by line;
* `Editor.encode` — the marks, each relative to the one before it;
* `Document.semanticTokens` — the encoded marks of tokens.
-/

namespace EmbeddedSql
namespace Editor

/-! ## Painting -/

/-- Tokens with their numbers, in the order in which they are painted: by class, then by number. -/
def paintOrder (tokens : List Token) : List (Token × Nat) :=
  Category.passOrder.flatMap fun c => tokens.zipIdx.filter fun (t, _) => t.category == c

def owner? (painted : List (Token × Nat)) (offset : Nat) : Option (Token × Nat) :=
  (painted.filter fun (t, _) => t.range.span.contains offset).getLast?

/-- Consecutive bytes with the same owner, as runs.  The first byte has the given offset. -/
def runsFrom : (offset : Nat) → List (Option (Token × Nat)) → List (Token × Nat × Span)
  | _, [] => []
  | offset, none :: rest => runsFrom (offset + 1) rest
  | offset, some (t, i) :: rest =>
    match runsFrom (offset + 1) rest with
    | (u, j, s) :: more =>
      -- Tokens of one class and one range are still two tokens, so numbers are compared.
      if j = i ∧ s.start = offset + 1 then (t, i, ⟨offset, s.stop⟩) :: more
      else (t, i, ⟨offset, offset + 1⟩) :: (u, j, s) :: more
    | [] => [(t, i, ⟨offset, offset + 1⟩)]

def firstByte (tokens : List Token) : Nat :=
  (tokens.map (·.range.span.start)).min?.getD 0

/-- The end of the last byte that a token of the list can cover. -/
def lastByte (tokens : List Token) : Nat :=
  (tokens.map (·.range.span.stop)).max?.getD 0

/-- What is seen of the tokens: runs of bytes with their class, in order. -/
def visibleRuns (tokens : List Token) : List (Category × Span) :=
  let first := firstByte tokens
  let painted := paintOrder tokens
  let owners := (List.range' first (lastByte tokens - first)).map (owner? painted)
  (runsFrom first owners).map fun (t, _, s) => (t.category, s)

/-! ## Encoding -/

structure Mark where
  piece : Piece
  category : Category
deriving DecidableEq, Repr

def marks (d : Document) (tokens : List Token) : List Mark :=
  (visibleRuns tokens).flatMap fun (category, s) =>
    (d.pieces (d.rangeFor s.start s.stop)).map fun piece => ⟨piece, category⟩

/-- A mark relative to the one before it: lines down, then units from its start, or from the start
of the line if that is another one. -/
structure SemanticToken where
  deltaLine : Nat
  deltaStart : Nat
  length : Nat
  tokenType : Nat
deriving DecidableEq, Repr

/-- Marks relative to the one before them, which started at `start` of `line`. -/
def encode : (line start : Nat) → List Mark → List SemanticToken
  | _, _, [] => []
  | line, start, m :: rest =>
    let deltaLine := m.piece.line - line
    -- Marks come in the order of the text, so neither difference is cut off.
    let deltaStart := if deltaLine = 0 then m.piece.start - start else m.piece.start
    ⟨deltaLine, deltaStart, m.piece.length, m.category.emitIndex⟩ ::
      encode m.piece.line m.piece.start rest

/-- The numbers that a semantic token is sent as; no modifier is ever set. -/
def SemanticToken.numbers (t : SemanticToken) : List Nat :=
  [t.deltaLine, t.deltaStart, t.length, t.tokenType, 0]

def legend : List String :=
  Category.emitOrder.map Category.name

end Editor

def Document.semanticTokens (d : Document) (tokens : List Token) : List Editor.SemanticToken :=
  Editor.encode 0 0 (Editor.marks d tokens)

end EmbeddedSql

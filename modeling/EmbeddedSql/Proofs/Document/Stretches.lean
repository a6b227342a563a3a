import EmbeddedSql.Proofs.Document.Ranges

/-!
# Stretches — texts that run over the ends of lines

Between two positions stands a text, which may go on over line breaks.  It is put together from the
stretches that lie on one line each:

* `Document.text_eq_append_break`, `Document.text_eq_append_ending` — behind every row but the last
  stands a line break;
* `Document.holds_line` — a part of a line stands between its columns;
* `Document.holds_break` — the rest of a line and its break reach up to the next line;
* `Document.Holds.append` — two stretches that meet are one.
-/

namespace EmbeddedSql

open Text

theorem Text.join_eq_append {sep : Char} (hsep : sep.utf8Size = 1) {pieces : List (List Char)}
    {i : Nat} (h : i + 1 < pieces.length) :
    ∃ a b, join sep pieces = a ++ (pieces.getD i [] ++ sep :: b) ∧
      byteLength a = spread (pieces.take i) := by
  induction pieces generalizing i with
  | nil => cases h
  | cons piece rest ih =>
      cases rest with
      | nil => simp at h
      | cons next more =>
          cases i with
          | zero => exact ⟨[], join sep (next :: more), rfl, rfl⟩
          | succ i =>
              rcases @ih i (by simpa using h) with ⟨a, b, hjoin, ha⟩
              refine ⟨piece ++ sep :: a, b, ?_, ?_⟩
              · rw [join, hjoin]
                simp
              · rw [byteLength_append, byteLength_cons, hsep, ha, List.take_succ_cons, spread_cons,
                  Nat.add_assoc]

namespace Document

variable {d : Document}

theorem text_eq_append_break {i : Nat} (h : i + 1 < d.lineCount) :
    ∃ a b, d.text = a ++ (d.row i ++ '\n' :: b) ∧ byteLength a = d.lineStart i := by
  rw [lineCount_eq] at h
  rcases @join_eq_append '\n' rfl d.rows i h with ⟨a, b, hjoin, ha⟩
  refine ⟨a, b, ?_, ha⟩
  rw [← join_split '\n' d.text]
  exact hjoin

/-- Behind a row stands a line break, or nothing. -/
theorem text_eq_append_ending {i : Nat} (hi : i < d.lineCount) :
    ∃ a b, d.text = a ++ (d.row i ++ b) ∧ byteLength a = d.lineStart i ∧
      ∀ c ∈ b.head?, c = '\n' := by
  by_cases hnext : i + 1 < d.lineCount
  · rcases text_eq_append_break hnext with ⟨a, b, htext, ha⟩
    exact ⟨a, '\n' :: b, htext, ha, by simp⟩
  · rcases text_eq_append_row hi with ⟨a, b, htext, ha⟩
    rw [List.append_assoc] at htext
    -- The last row ends where the text ends.
    have hlast : d.lineStart i + byteLength (d.row i) = d.length := by
      have hend := d.lineStart_lineCount
      rw [show d.lineCount = i + 1 by omega, lineStart_succ hi] at hend
      omega
    have hlength : d.length = byteLength a + (byteLength (d.row i) + byteLength b) := by
      rw [length, htext, byteLength_append, byteLength_append]
    have hb : b = [] := byteLength_eq_zero_iff.1 (by omega)
    exact ⟨a, b, htext, ha, by simp [hb]⟩

/-! ## Stretches of one line -/

theorem holds_of_row {i : Nat} {a x y b : List Char} {q : Position} (hi : i < d.lineCount)
    (ha : byteLength a = d.lineStart i) (hx : byteLength x ≤ byteLength (d.row i))
    (htext : d.text = a ++ (x ++ (y ++ b))) (hq : d.positionAt (d.offsetAt q) = q)
    (hstop : d.offsetAt q = d.lineStart i + byteLength x + byteLength y) :
    d.Holds (d.rangeBetween ⟨i, byteLength x⟩ q) y := by
  have hstart : d.offsetAt ⟨i, byteLength x⟩ = d.lineStart i + byteLength x :=
    offsetAt_eq hi hx
  have hp : d.positionAt (d.lineStart i + byteLength x) = ⟨i, byteLength x⟩ := by
    rw [← hstart]
    exact positionAt_offsetAt hi hx
  refine ⟨a ++ x, b, by simp [htext], ?_⟩
  rw [hstop] at hq
  simp only [rangeBetween, rangeFor, hstart, hstop, byteLength_append, ha, hp, hq]

theorem holds_line {i : Nat} {x y z : List Char} (hi : i < d.lineCount)
    (hline : d.line i = x ++ (y ++ z)) :
    d.Holds (d.rangeBetween ⟨i, byteLength x⟩ ⟨i, byteLength x + byteLength y⟩) y := by
  rcases text_eq_append_row hi with ⟨a, b, htext, ha⟩
  rcases row_eq_append d i with ⟨r, hrow⟩
  have hlen : byteLength x + byteLength y ≤ byteLength (d.row i) := by
    rw [hrow, hline]
    simp only [byteLength_append]
    omega
  have hstop : d.offsetAt ⟨i, byteLength x + byteLength y⟩ =
      d.lineStart i + byteLength x + byteLength y := by
    rw [offsetAt_eq hi hlen, Nat.add_assoc]
  refine holds_of_row (b := z ++ (r ++ b)) hi ha (by omega) ?_ (positionAt_offsetAt hi hlen) hstop
  rw [htext, hrow, hline]
  simp

/-- What is left of a line, with the characters that end it, reaches up to the next line. -/
theorem holds_break {i : Nat} {x y : List Char} (hi : i + 1 < d.lineCount)
    (hline : d.line i = x ++ y) :
    ∃ ending, '"' ∉ ending ∧
      d.Holds (d.rangeBetween ⟨i, byteLength x⟩ ⟨i + 1, 0⟩) (y ++ ending) := by
  have hi' : i < d.lineCount := Nat.lt_of_succ_lt hi
  have hnext : d.offsetAt ⟨i + 1, 0⟩ = d.lineStart i + byteLength (d.row i) + 1 := by
    rw [offsetAt_eq hi (Nat.zero_le _), lineStart_succ hi', Nat.add_zero]
  have hq : d.positionAt (d.offsetAt ⟨i + 1, 0⟩) = ⟨i + 1, 0⟩ :=
    positionAt_offsetAt hi (Nat.zero_le _)
  rcases text_eq_append_break hi with ⟨a, b, htext, ha⟩
  -- The line ends with its break, or with a `\r` and its break.
  have hending : ∃ r, '"' ∉ r ∧ d.row i = x ++ (y ++ r) := by
    rcases stripReturn_eq_or (d.row i) with h | h
    · refine ⟨[], List.not_mem_nil, ?_⟩
      rw [← h, ← line_eq, hline, List.append_nil]
    · refine ⟨['\r'], by decide, ?_⟩
      rw [h, ← line_eq, hline, List.append_assoc]
  rcases hending with ⟨r, hr, hrow⟩
  have hlen : byteLength (d.row i) = byteLength x + (byteLength y + byteLength r) := by
    rw [hrow, byteLength_append, byteLength_append]
  have hone : byteLength ['\n'] = 1 := rfl
  refine ⟨r ++ ['\n'], by simp [hr], ?_⟩
  refine holds_of_row (b := b) hi' ha (by omega) ?_ hq ?_
  · rw [htext, hrow]
    simp
  · rw [hnext, hlen, byteLength_append, byteLength_append, hone]
    omega

/-! ## Stretches that meet -/

theorem Holds.append {p q r : Position} {s t : List Char} (hs : d.Holds (d.rangeBetween p q) s)
    (ht : d.Holds (d.rangeBetween q r) t) : d.Holds (d.rangeBetween p r) (s ++ t) := by
  rcases hs with ⟨a, b, htext, hpq⟩
  rcases ht with ⟨a', b', htext', hqr⟩
  have hmeet : byteLength (a ++ s) = byteLength a' := by
    rw [byteLength_append]
    exact (congrArg (·.span.stop) hpq).symm.trans (congrArg (·.span.start) hqr)
  -- What stands behind the first stretch begins with the second one.
  have hb : b = t ++ b' := by
    have hcut : dropBytes? (byteLength (a ++ s)) d.text = some b := by
      rw [htext, ← List.append_assoc, dropBytes?_append]
    have hcut' : dropBytes? (byteLength a') d.text = some (t ++ b') := by
      rw [htext', dropBytes?_append]
    rw [hmeet, hcut'] at hcut
    exact (Option.some.inj hcut).symm
  refine ⟨a, b', by rw [htext, hb, List.append_assoc], ?_⟩
  have hstop : byteLength a' + byteLength t = byteLength a + byteLength (s ++ t) := by
    rw [← hmeet, byteLength_append, byteLength_append, Nat.add_assoc]
  rw [hstop] at hqr
  simp only [rangeBetween, rangeFor, Range.mk.injEq, Span.mk.injEq] at hpq hqr ⊢
  exact ⟨⟨hpq.1.1, hqr.1.2⟩, hpq.2.1, hqr.2.2⟩

end Document
end EmbeddedSql

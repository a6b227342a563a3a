import EmbeddedSql.Literal
import EmbeddedSql.Proofs.Text.Cuts

/-!
# Quotes — where the scans of one line stop

A literal is found by two scans of a line: one looks for an opening, the other for a quote that is
not doubled.  Both count bytes, and both stop at a character:

* `Onset.eq_append_of_find?` — the column of an opening is that of a quote;
* `Literal.eq_append_of_closingColumn?` — the column of a closing quote is that of a quote with no
  other one right behind it;
* `Literal.le_of_closingColumn?` — it is not in front of the start column;
* `Literal.closingColumn?_append` — what stands in front of the start column does not matter;
* `Onset.closingColumn?_of_find?` — hence the end of a literal is looked for behind its opening;
* `Literal.closingFrom_char`, `Literal.closingFrom_quote` — the scan goes over every other character
  and stops at a quote that is alone.
-/

namespace EmbeddedSql

open Text

/-! ## Openings -/

theorem Onset.eq_append_of_findFrom {column : Nat} {cs : List Char} {onset : Onset}
    (h : findFrom column cs = some onset) :
    ∃ a b, cs = a ++ '"' :: b ∧ onset.quoteColumn = column + byteLength a := by
  fun_induction findFrom column cs with
  | case1 => cases h
  | case2 column rest =>
      cases h
      exact ⟨['@', '$'], rest, rfl, rfl⟩
  | case3 column rest =>
      cases h
      exact ⟨['@'], rest, rfl, rfl⟩
  | case4 column rest =>
      cases h
      exact ⟨['$', '@'], rest, rfl, rfl⟩
  | case5 column c cs _ _ _ ih =>
      rcases ih h with ⟨a, b, rfl, hcolumn⟩
      refine ⟨c :: a, b, rfl, ?_⟩
      rw [hcolumn, byteLength_cons, Nat.add_assoc]

theorem Onset.eq_append_of_find? {line : List Char} {onset : Onset} (h : find? line = some onset) :
    ∃ a b, line = a ++ '"' :: b ∧ onset.quoteColumn = byteLength a := by
  simpa using eq_append_of_findFrom h

theorem Onset.isBoundary_of_find? {line : List Char} {onset : Onset} (h : find? line = some onset) :
    IsBoundary line (onset.quoteColumn + 1) := by
  rcases eq_append_of_find? h with ⟨a, b, rfl, hcolumn⟩
  refine ⟨a ++ ['"'], b, by simp, ?_⟩
  rw [byteLength_append, hcolumn]
  rfl

namespace Literal

variable {column start stop : Nat} {cs : List Char}

/-! ## Closing quotes -/

theorem eq_append_of_closingFrom (h : closingFrom column cs = some stop) :
    ∃ a b, cs = a ++ '"' :: b ∧ b.head? ≠ some '"' ∧ stop = column + byteLength a := by
  fun_induction closingFrom column cs with
  | case1 => cases h
  | case2 column cs ih =>
      -- The pair is skipped as a whole.
      rcases ih h with ⟨a, b, rfl, hb, hstop⟩
      have hone : '"'.utf8Size = 1 := rfl
      refine ⟨'"' :: '"' :: a, b, rfl, hb, ?_⟩
      rw [hstop, byteLength_cons, byteLength_cons, hone]
      omega
  | case3 column cs hpair =>
      cases h
      refine ⟨[], cs, rfl, ?_, rfl⟩
      intro hhead
      rcases List.head?_eq_some_iff.1 hhead with ⟨rest, rfl⟩
      exact hpair rest rfl rfl
  | case4 column c cs _ _ ih =>
      rcases ih h with ⟨a, b, rfl, hb, hstop⟩
      refine ⟨c :: a, b, rfl, hb, ?_⟩
      rw [hstop, byteLength_cons, Nat.add_assoc]

theorem closingFrom_char {c : Char} (hc : c ≠ '"') :
    closingFrom column (c :: cs) = closingFrom (column + c.utf8Size) cs := by
  rw [closingFrom, if_neg hc]
  intro rest heq
  exact absurd heq hc

theorem closingFrom_quote (h : cs.head? ≠ some '"') :
    closingFrom column ('"' :: cs) = some column := by
  cases cs with
  | nil => rfl
  | cons c rest =>
      have hc : c ≠ '"' := by simpa using h
      rw [closingFrom, if_pos rfl]
      intro rest' _ heq
      exact absurd (List.cons.inj heq).1 hc

theorem eq_append_of_go (h : closingColumn?.go start column cs = some stop) :
    ∃ a b, cs = a ++ '"' :: b ∧ b.head? ≠ some '"' ∧ stop = column + byteLength a := by
  fun_induction closingColumn?.go start column cs with
  | case1 => cases h
  | case2 column c cs _ ih =>
      rcases ih h with ⟨a, b, rfl, hb, hstop⟩
      refine ⟨c :: a, b, rfl, hb, ?_⟩
      rw [hstop, byteLength_cons, Nat.add_assoc]
  | case3 => exact eq_append_of_closingFrom h

theorem eq_append_of_closingColumn? {line : List Char} (h : closingColumn? start line = some stop) :
    ∃ a b, line = a ++ '"' :: b ∧ b.head? ≠ some '"' ∧ stop = byteLength a := by
  simpa using eq_append_of_go h

theorem isBoundary_of_closingColumn? {line : List Char}
    (h : closingColumn? start line = some stop) : IsBoundary line stop := by
  rcases eq_append_of_closingColumn? h with ⟨a, b, rfl, -, rfl⟩
  exact ⟨a, '"' :: b, rfl, rfl⟩

/-! ## The start column -/

theorem le_of_closingColumn? {line : List Char} (h : closingColumn? start line = some stop) :
    start ≤ stop := by
  have hgo : ∀ column cs, closingColumn?.go start column cs = some stop → start ≤ stop := by
    intro column cs hcs
    fun_induction closingColumn?.go start column cs with
    | case1 => cases hcs
    | case2 column c cs _ ih => exact ih hcs
    | case3 column c cs hge =>
        rcases eq_append_of_closingFrom hcs with ⟨a, b, -, -, rfl⟩
        exact Nat.le_trans (Nat.not_lt.1 hge) (Nat.le_add_right _ _)
  exact hgo 0 line h

theorem go_append {a : List Char} (h : column + byteLength a ≤ start) :
    closingColumn?.go start column (a ++ cs) =
      closingColumn?.go start (column + byteLength a) cs := by
  induction a generalizing column with
  | nil => rfl
  | cons c rest ih =>
      have hpos : 0 < c.utf8Size := c.utf8Size_pos
      rw [byteLength_cons] at h ⊢
      have hlt : column < start := by omega
      rw [List.cons_append, closingColumn?.go, if_pos hlt, ih (by omega), Nat.add_assoc]

theorem go_of_le (h : start ≤ column) :
    closingColumn?.go start column cs = closingFrom column cs := by
  cases cs with
  | nil => rfl
  | cons c rest => rw [closingColumn?.go, if_neg (Nat.not_lt.2 h)]

theorem closingColumn?_append (a b : List Char) :
    closingColumn? (byteLength a) (a ++ b) = closingFrom (byteLength a) b := by
  have hskip : closingColumn?.go (byteLength a) 0 (a ++ b) =
      closingColumn?.go (byteLength a) (0 + byteLength a) b :=
    go_append (Nat.le_of_eq (Nat.zero_add _))
  rw [closingColumn?, hskip, Nat.zero_add]
  exact go_of_le (Nat.le_refl _)

theorem closingColumn?_zero (line : List Char) : closingColumn? 0 line = closingFrom 0 line :=
  closingColumn?_append [] line

end Literal

/-- Behind an opening the search for the end begins with what follows the quote. -/
theorem Onset.closingColumn?_of_find? {line : List Char} {onset : Onset}
    (h : find? line = some onset) :
    ∃ a b, line = (a ++ ['"']) ++ b ∧ onset.quoteColumn + 1 = byteLength (a ++ ['"']) ∧
      Literal.closingColumn? (onset.quoteColumn + 1) line =
        Literal.closingFrom (onset.quoteColumn + 1) b := by
  rcases eq_append_of_find? h with ⟨a, b, hline, hcolumn⟩
  have hsplit : line = (a ++ ['"']) ++ b := by
    rw [hline, List.append_assoc]
    rfl
  have hstart : onset.quoteColumn + 1 = byteLength (a ++ ['"']) := by
    rw [byteLength_append, hcolumn]
    rfl
  refine ⟨a, b, hsplit, hstart, ?_⟩
  rw [hsplit, hstart]
  exact Literal.closingColumn?_append _ b

end EmbeddedSql

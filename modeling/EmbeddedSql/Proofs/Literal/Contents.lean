import EmbeddedSql.Proofs.Document.Stretches
import EmbeddedSql.Proofs.Highlights.Exactness
import EmbeddedSql.Proofs.Literal.RoundTrip
import EmbeddedSql.Proofs.Text.Runs

/-!
# Contents — the source text of a literal has its quotes in pairs

The search for the end of a literal goes over pairs of quotes and stops at the first quote that has
no partner.  It looks at one line at a time, but a line end never separates a pair, so all of the
text between the two ends of a literal is a text with every quote doubled:

* `Literal.eq_double_of_closingFrom`, `Literal.eq_double_of_closingFrom_none` — what the search for
  the end has gone over;
* `Literal.scan_doubled` — the scan for literals goes over doubled texts only;
* `Document.double_value` — a literal's source text is its value with every quote doubled;
* `Literal.exists_double_append` — a doubled text comes apart everywhere but inside a pair;
* `Document.value_loses_nothing` — so quotes that stand side by side are even in number, and the
  source text can be had back from the value.
-/

namespace EmbeddedSql

open Text

namespace Literal

theorem eq_double_of_closingFrom_none {column : Nat} {cs : List Char}
    (h : closingFrom column cs = none) : ∃ s, cs = double s := by
  fun_induction closingFrom column cs with
  | case1 => exact ⟨[], rfl⟩
  | case2 column cs ih =>
      rcases ih h with ⟨s, rfl⟩
      exact ⟨'"' :: s, rfl⟩
  | case3 => cases h
  | case4 column c cs _ hc ih =>
      rcases ih h with ⟨s, rfl⟩
      exact ⟨c :: s, (double_char hc s).symm⟩

theorem eq_double_of_closingFrom {column stop : Nat} {cs : List Char}
    (h : closingFrom column cs = some stop) :
    ∃ s b, cs = double s ++ '"' :: b ∧ stop = column + byteLength (double s) := by
  fun_induction closingFrom column cs with
  | case1 => cases h
  | case2 column cs ih =>
      rcases ih h with ⟨s, b, rfl, rfl⟩
      have hone : '"'.utf8Size = 1 := rfl
      refine ⟨'"' :: s, b, rfl, ?_⟩
      rw [double_quote, byteLength_cons, byteLength_cons, hone]
      omega
  | case3 column cs _ =>
      cases h
      exact ⟨[], cs, rfl, rfl⟩
  | case4 column c cs _ hc ih =>
      rcases ih h with ⟨s, b, rfl, rfl⟩
      refine ⟨c :: s, b, by rw [double_char hc, List.cons_append], ?_⟩
      rw [double_char hc, byteLength_cons, Nat.add_assoc]

variable {d : Document}

/-- On a line of the document the search goes over a doubled text, up to the closing quote. -/
theorem holds_closed {index stop : Nat} {x y : List Char} (hi : index < d.lineCount)
    (hline : d.line index = x ++ y) (h : closingFrom (byteLength x) y = some stop) :
    ∃ s, d.Holds (d.rangeBetween ⟨index, byteLength x⟩ ⟨index, stop⟩) (double s) := by
  rcases eq_double_of_closingFrom h with ⟨s, b, rfl, rfl⟩
  exact ⟨s, Document.holds_line hi hline⟩

/-- Without a closing quote it goes on to the next line, and what ends the line has no quote. -/
theorem holds_unclosed {index : Nat} {x y : List Char} (hi : index + 1 < d.lineCount)
    (hline : d.line index = x ++ y) (h : closingFrom (byteLength x) y = none) :
    ∃ s, d.Holds (d.rangeBetween ⟨index, byteLength x⟩ ⟨index + 1, 0⟩) (double s) := by
  rcases eq_double_of_closingFrom_none h with ⟨s, rfl⟩
  rcases Document.holds_break hi hline with ⟨ending, hending, hholds⟩
  refine ⟨s ++ ending, ?_⟩
  rw [double_append, double_of_not_mem hending]
  exact hholds

theorem scan_doubled {opened : Option (LiteralKind × Position)} {index : Nat}
    {lines : List (List Char)}
    (hopened : ∀ o, opened = some o → index < d.lineCount →
      ∃ s, d.Holds (d.rangeBetween o.2 ⟨index, 0⟩) (double s))
    (hlines : ∀ k line, lines[k]? = some line →
      index + k < d.lineCount ∧ d.line (index + k) = line)
    {p : LiteralPlace} (hp : p ∈ scan opened index lines) :
    ∃ s, d.Holds (d.rangeBetween p.start p.stop) (double s) := by
  -- An open literal has a doubled text up to the next line, whichever line that is.
  induction lines generalizing opened index with
  | nil => cases opened <;> simp [scan] at hp
  | cons line rest ih =>
      rcases hlines 0 line rfl with ⟨hi, hline⟩
      have hrest : ∀ k line', rest[k]? = some line' →
          index + 1 + k < d.lineCount ∧ d.line (index + 1 + k) = line' := by
        intro k line' hk
        have hnext := hlines (k + 1) line' hk
        rwa [show index + (k + 1) = index + 1 + k by omega] at hnext
      cases opened with
      | none =>
          simp only [scan] at hp
          split at hp
          · exact ih (by simp) hrest hp
          · rename_i onset honset
            rcases Onset.closingColumn?_of_find? honset with ⟨a, b, hsplit, hstart, hsearch⟩
            have hline' : d.line index = (a ++ ['"']) ++ b := hline.trans hsplit
            rw [hstart] at hsearch
            simp only [hstart, hsearch] at hp
            split at hp
            · rename_i column hclosed
              rcases List.mem_cons.1 hp with rfl | hp
              · exact holds_closed hi hline' hclosed
              · exact ih (by simp) hrest hp
            · rename_i hunclosed
              refine ih ?_ hrest hp
              intro o ho hnext
              cases ho
              exact holds_unclosed hnext hline' hunclosed
      | some o =>
          rcases o with ⟨kind, start⟩
          rcases hopened _ rfl hi with ⟨s, hs⟩
          simp only [scan, closingColumn?_zero] at hp
          split at hp
          · rename_i column hclosed
            rcases List.mem_cons.1 hp with rfl | hp
            · rcases holds_closed (x := []) hi hline hclosed with ⟨t, ht⟩
              refine ⟨s ++ t, ?_⟩
              rw [double_append]
              exact hs.append ht
            · exact ih (by simp) hrest hp
          · rename_i hunclosed
            refine ih ?_ hrest hp
            intro o ho hnext
            cases ho
            rcases holds_unclosed (x := []) hnext hline hunclosed with ⟨t, ht⟩
            refine ⟨s ++ t, ?_⟩
            rw [double_append]
            exact hs.append ht

end Literal

theorem Document.double_value {d : Document} {r : Region} {l : Literal} (h : l ∈ d.literals r) :
    Literal.double (l.value d) = l.raw d := by
  rcases List.mem_map.1 h with ⟨p, hp, rfl⟩
  rcases Literal.scan_doubled (by simp) (fun _ _ hk => line_of_contentLines hk) hp with ⟨s, hs⟩
  have hraw : (Literal.ofPlace d p).raw d = Literal.double s := hs.textOf_eq
  rw [Literal.value, hraw, Literal.undouble_double]

/-! ## Quotes side by side -/

namespace Literal

theorem exists_double_append {s x y : List Char} (h : double s = x ++ y)
    (hparted : x.getLast? ≠ some '"' ∨ y.head? ≠ some '"') :
    ∃ a b, x = double a ∧ y = double b := by
  have hshorter : ∀ {c : Char} {x : List Char}, (c :: x).getLast? ≠ some '"' ∨ y.head? ≠ some '"' →
      x.getLast? ≠ some '"' ∨ y.head? ≠ some '"' := by
    intro c x hx
    cases x with
    | nil => exact .inl (by simp)
    | cons d x => simpa using hx
  induction s generalizing x with
  | nil =>
      rcases List.append_eq_nil_iff.1 h.symm with ⟨rfl, rfl⟩
      exact ⟨[], [], rfl, rfl⟩
  | cons e s ih =>
      by_cases he : e = '"'
      · subst he
        rw [double_quote] at h
        rcases x with _ | ⟨x₁, _ | ⟨x₂, x⟩⟩
        · exact ⟨[], '"' :: s, rfl, h.symm⟩
        · -- The joint would be in the middle of the pair.
          rcases List.cons.inj h with ⟨rfl, hy⟩
          have hhead : y.head? = some '"' := congrArg List.head? hy.symm
          simp [hhead] at hparted
        · rcases List.cons.inj h with ⟨rfl, htail⟩
          rcases List.cons.inj htail with ⟨rfl, hrest⟩
          rcases ih hrest (hshorter (hshorter hparted)) with ⟨a, b, rfl, rfl⟩
          exact ⟨'"' :: a, b, rfl, rfl⟩
      · rw [double_char he] at h
        rcases x with _ | ⟨x₁, x⟩
        · exact ⟨[], e :: s, rfl, by rw [double_char he]; exact h.symm⟩
        · rcases List.cons.inj h with ⟨rfl, hrest⟩
          rcases ih hrest (hshorter hparted) with ⟨a, b, rfl, rfl⟩
          exact ⟨e :: a, b, (double_char he a).symm, rfl⟩

theorem length_double {s : List Char} (h : ∀ c ∈ s, c = '"') :
    (double s).length = 2 * s.length := by
  induction s with
  | nil => rfl
  | cons c s ih =>
      rw [h c List.mem_cons_self, double_quote]
      simp only [List.length_cons, ih fun c hc => h c (List.mem_cons_of_mem _ hc)]
      omega

/-- The first quote of a run does not belong to a pair in front of it, the last one not to a pair
behind it. -/
theorem even_of_maximalIn_double {s : List Char} {q : Run}
    (h : q.MaximalIn (· == '"') (double s)) : q.chars.length % 2 = 0 := by
  rcases h with ⟨before, after, htext, -, hrun⟩
  have hbefore : before.getLast? ≠ some '"' := fun heq => by simpa using hrun.left '"' heq
  have hafter : after.head? ≠ some '"' := fun heq => by simpa using hrun.right '"' heq
  rcases exists_double_append htext (.inl hbefore) with ⟨_, t, -, ht⟩
  rcases exists_double_append ht.symm (.inr hafter) with ⟨u, _, hu, -⟩
  have hquotes : ∀ c ∈ u, c = '"' := by
    intro c hc
    have hmem : c ∈ q.chars := by
      rw [hu]
      exact mem_double.2 hc
    simpa using hrun.all c hmem
  rw [hu, length_double hquotes]
  omega

end Literal

namespace Document

/-- Quotes that stand side by side in the source text of a literal are even in number, and the
source text is the value with every quote doubled. -/
theorem value_loses_nothing {d : Document} {r : Region} {l : Literal} (h : l ∈ d.literals r) :
    (∀ q : Run, q.MaximalIn (· == '"') (l.raw d) → q.chars.length % 2 = 0) ∧
      Literal.double (l.value d) = l.raw d := by
  have hraw : Literal.double (l.value d) = l.raw d := double_value h
  refine ⟨?_, hraw⟩
  intro q hq
  rw [← hraw] at hq
  exact Literal.even_of_maximalIn_double hq

/-- Four quotes behind the opening one, two in front of the end of a line, and three at the end, of
which the last one closes. -/
theorem value_loses_nothing_three_runs :
    let d := ofString "//sql begin\n$@\"\"\"\"\"é\"\"\r\n\"\"\";\n//sql end"
    let r : Region := ⟨0, 3⟩
    let l : Literal := ⟨⟨⟨15, 27⟩, ⟨1, 3⟩, ⟨2, 2⟩⟩, .interpolated⟩
    d.literals r = [l] ∧ l.raw d = "\"\"\"\"é\"\"\r\n\"\"".toList ∧
      Run.MaximalIn (· == '"') (l.raw d) ⟨0, "\"\"\"\"".toList⟩ ∧
      "\"\"\"\"".toList.length % 2 = 0 ∧
      l.value d = "\"\"é\"\r\n\"".toList ∧ Literal.double (l.value d) = l.raw d := by
  intro d r l
  have hliterals : d.literals r = [l] := by decide +kernel
  have hraw : l.raw d = "\"\"\"\"é\"\"\r\n\"\"".toList := by decide +kernel
  have hmem : l ∈ d.literals r := by
    rw [hliterals]
    exact List.mem_singleton_self l
  have hrun : Run.MaximalIn (· == '"') (l.raw d) ⟨0, "\"\"\"\"".toList⟩ := by
    refine ⟨[], "é\"\"\r\n\"\"".toList, hraw.trans rfl, rfl, ?_, ?_, ?_, ?_⟩ <;> simp
  have hall := value_loses_nothing hmem
  exact ⟨hliterals, hraw, hrun, hall.1 _ hrun, by decide +kernel, hall.2⟩

end Document
end EmbeddedSql

import EmbeddedSql.Editor.SemanticTokens
import EmbeddedSql.Proofs.Document.Spans

/-!
# Painting — what is seen of overlapping tokens

Tokens are painted over bytes in pass order, and what is seen is read back as runs of bytes.  The
outcome is stated without painting and runs:

* `Editor.TopCategory tokens offset c` — among the tokens that hold a byte, `c` is the class of the
  latest pass;
* `Editor.owner?_spec`, `Editor.owner?_eq_none_iff` — the byte shows a token of that class, and none
  if no token holds it;
* `Editor.runsFrom_ascending`, `Editor.ownersAt_runsFrom` — reading runs back loses nothing: each
  byte is in one run of its owner;
* `Editor.visibleRuns_ascending`, `Editor.categories_visibleRuns` — the same of all tokens.
-/

namespace EmbeddedSql
namespace Editor

/-- Among the tokens that hold a byte, some have the class `c` and none has one of a later pass. -/
structure TopCategory (tokens : List Token) (offset : Nat) (c : Category) : Prop where
  held : ∃ t ∈ tokens, t.category = c ∧ t.range.span.contains offset
  latest : ∀ t ∈ tokens, t.range.span.contains offset → t.category.passIndex ≤ c.passIndex

variable {tokens : List Token} {offset : Nat}

/-! ## Owners -/

theorem mem_paintOrder_iff {t : Token} {i : Nat} :
    (t, i) ∈ paintOrder tokens ↔ tokens[i]? = some t := by
  have hall : t.category ∈ Category.passOrder := by
    cases t.category <;> decide
  simp only [paintOrder, List.mem_flatMap, List.mem_filter, List.mk_mem_zipIdx_iff_getElem?,
    beq_iff_eq]
  constructor
  · rintro ⟨c, -, h, -⟩
    exact h
  · intro h
    exact ⟨t.category, hall, h, rfl⟩

/-- Tokens of a later pass are painted later. -/
theorem paintOrder_pairwise (tokens : List Token) :
    (paintOrder tokens).Pairwise fun x y => x.1.category.passIndex ≤ y.1.category.passIndex := by
  have hpasses : Category.passOrder.Pairwise fun c c' => c.passIndex ≤ c'.passIndex :=
    Category.passOrder_pairwise.imp Nat.le_of_lt
  have hclass : ∀ {c : Category} {x : Token × Nat},
      x ∈ tokens.zipIdx.filter (fun x => x.1.category == c) → x.1.category = c := by
    intro c x hx
    simpa using (List.mem_filter.1 hx).2
  rw [paintOrder, List.pairwise_flatMap]
  constructor
  · -- Within one pass all tokens have the same class.
    intro c _
    refine List.pairwise_of_forall_mem_list ?_
    intro x hx y hy
    exact Nat.le_of_eq (by rw [hclass hx, hclass hy])
  · refine hpasses.imp ?_
    intro c c' hcc x hx y hy
    rw [hclass hx, hclass hy]
    exact hcc

/-- The token that is seen at a byte holds it, and no token of a later pass does. -/
theorem owner?_spec {t : Token} {i : Nat} (h : owner? (paintOrder tokens) offset = some (t, i)) :
    tokens[i]? = some t ∧ TopCategory tokens offset t.category := by
  rcases List.getLast?_eq_some_iff.1 h with ⟨earlier, hlast⟩
  have hsplit : (paintOrder tokens).filter (fun x => x.1.range.span.contains offset) =
      earlier ++ [(t, i)] := hlast
  have hmem : (t, i) ∈ (paintOrder tokens).filter fun x => x.1.range.span.contains offset := by
    rw [hsplit]
    simp
  rcases List.mem_filter.1 hmem with ⟨hpainted, hholds⟩
  have hget : tokens[i]? = some t := mem_paintOrder_iff.1 hpainted
  refine ⟨hget, ⟨t, List.mem_of_getElem? hget, rfl, hholds⟩, ?_⟩
  intro u hu hcontains
  rcases List.mem_iff_getElem?.1 hu with ⟨j, hj⟩
  have hother : (u, j) ∈ (paintOrder tokens).filter fun x => x.1.range.span.contains offset :=
    List.mem_filter.2 ⟨mem_paintOrder_iff.2 hj, hcontains⟩
  have hordered := (paintOrder_pairwise tokens).filter fun x => x.1.range.span.contains offset
  rw [hsplit] at hother hordered
  rcases List.mem_append.1 hother with hin | hlast
  · exact (List.pairwise_append.1 hordered).2.2 _ hin _ (List.mem_singleton.2 rfl)
  · cases List.mem_singleton.1 hlast
    exact Nat.le_refl _

theorem owner?_eq_none_iff :
    owner? (paintOrder tokens) offset = none ↔
      ∀ t ∈ tokens, t.range.span.contains offset = false := by
  rw [owner?, List.getLast?_eq_none_iff, List.filter_eq_nil_iff]
  constructor
  · intro h t ht
    rcases List.mem_iff_getElem?.1 ht with ⟨i, hi⟩
    simpa using h (t, i) (mem_paintOrder_iff.2 hi)
  · rintro h ⟨t, i⟩ hx
    simpa using h t (List.mem_of_getElem? (mem_paintOrder_iff.1 hx))

/-! ## Runs -/

variable {owners : List (Option (Token × Nat))}

/-- The spans of runs, in order. -/
def runSpans (runs : List (Token × Nat × Span)) : List Span :=
  runs.map fun run => run.2.2

/-- The owners of the runs that hold a byte. -/
def ownersAt (offset : Nat) (runs : List (Token × Nat × Span)) : List (Token × Nat) :=
  (runs.filter fun run => run.2.2.contains offset).map fun run => (run.1, run.2.1)

theorem ownersAt_cons (offset : Nat) (t : Token) (i : Nat) (s : Span)
    (rest : List (Token × Nat × Span)) :
    ownersAt offset ((t, i, s) :: rest) =
      if s.contains offset then (t, i) :: ownersAt offset rest else ownersAt offset rest := by
  by_cases h : s.contains offset = true <;> simp [ownersAt, h]

/-- Runs are nonempty, in order and inside the bytes that they were read from. -/
theorem runsFrom_ascending (first : Nat) (owners : List (Option (Token × Nat))) :
    Span.Ascending first (first + owners.length) (runSpans (runsFrom first owners)) := by
  induction owners generalizing first with
  | nil => exact Nat.le_refl _
  | cons owner rest ih =>
      have hrest := ih (first + 1)
      have hlen : first + 1 + rest.length = first + (owner :: rest).length := by
        simp only [List.length_cons]
        omega
      rw [hlen] at hrest
      cases owner with
      | none => exact hrest.mono_low (Nat.le_succ first)
      | some x =>
          rcases x with ⟨t, i⟩
          simp only [runsFrom]
          cases hruns : runsFrom (first + 1) rest with
          | nil =>
              rw [hruns] at hrest
              exact ⟨Nat.le_refl _, Nat.lt_succ_self _, hrest⟩
          | cons run more =>
              rcases run with ⟨u, j, s⟩
              rw [hruns] at hrest
              simp only []
              split
              · -- The run of the next byte is taken over and begins one byte earlier.
                rcases hrest with ⟨hstart, hne, hmore⟩
                exact ⟨Nat.le_refl _, Nat.lt_trans (Nat.lt_of_succ_le hstart) hne, hmore⟩
              · exact ⟨Nat.le_refl _, Nat.lt_succ_self _, hrest⟩

theorem mem_runsFrom {first : Nat} {t : Token} {i : Nat} {s : Span}
    (h : (t, i, s) ∈ runsFrom first owners) : some (t, i) ∈ owners := by
  induction owners generalizing first t i s with
  | nil => simp [runsFrom] at h
  | cons owner rest ih =>
      cases owner with
      | none => exact List.mem_cons_of_mem _ (ih h)
      | some x =>
          rcases x with ⟨t', i'⟩
          simp only [runsFrom] at h
          cases hruns : runsFrom (first + 1) rest with
          | nil => simp_all
          | cons run more =>
              rcases run with ⟨u, j, r⟩
              have hrest : (t, i, s) ∈ (u, j, r) :: more → some (t, i) ∈ rest := by
                rw [← hruns]
                exact ih
              rw [hruns] at h
              simp only [] at h
              split at h
              · rcases List.mem_cons.1 h with heq | hmem
                · simp_all
                · exact List.mem_cons_of_mem _ (hrest (List.mem_cons_of_mem _ hmem))
              · rcases List.mem_cons.1 h with heq | hmem
                · simp_all
                · exact List.mem_cons_of_mem _ (hrest hmem)

theorem ownersAt_of_lt {low high : Nat} {runs : List (Token × Nat × Span)}
    (hruns : Span.Ascending low high (runSpans runs)) (h : offset < low) :
    ownersAt offset runs = [] := by
  rw [ownersAt, List.map_eq_nil_iff, List.filter_eq_nil_iff]
  intro run hmem hcontains
  have hlow : low ≤ run.2.2.start := (hruns.mem (List.mem_map.2 ⟨run, hmem, rfl⟩)).1
  have hholds := Span.contains_iff.1 hcontains
  omega

/-- A run of one byte in front of later runs. -/
theorem ownersAt_single {first high : Nat} {t : Token} {i : Nat}
    {runs : List (Token × Nat × Span)}
    (hruns : Span.Ascending (first + 1) high (runSpans runs)) :
    ownersAt offset ((t, i, ⟨first, first + 1⟩) :: runs) =
      if offset = first then [(t, i)] else ownersAt offset runs := by
  have hone : (⟨first, first + 1⟩ : Span).contains offset = decide (offset = first) := by
    simp only [Span.contains]
    grind
  rw [ownersAt_cons, hone]
  by_cases hoff : offset = first
  · rw [ownersAt_of_lt hruns (by omega)]
    simp [hoff]
  · simp [hoff]

/-- A run that takes in the byte in front of it. -/
theorem ownersAt_grown {first high : Nat} {t : Token} {i : Nat} {s : Span}
    {runs : List (Token × Nat × Span)} (hstart : s.start = first + 1)
    (hruns : Span.Ascending (first + 1) high (s :: runSpans runs)) :
    ownersAt offset ((t, i, ⟨first, s.stop⟩) :: runs) =
      if offset = first then [(t, i)] else ownersAt offset ((t, i, s) :: runs) := by
  rcases hruns with ⟨-, hne, hlater⟩
  have hgrown : (⟨first, s.stop⟩ : Span).contains offset =
      (decide (offset = first) || s.contains offset) := by
    simp only [Span.contains]
    grind
  rw [ownersAt_cons, hgrown]
  by_cases hoff : offset = first
  · rw [ownersAt_of_lt hlater (by omega)]
    simp [hoff]
  · simp [ownersAt_cons, hoff]

/-- Each byte that shows a token is in one run of that token, and any other byte is in none. -/
theorem ownersAt_runsFrom {first : Nat}
    (howners : ∀ t i, some (t, i) ∈ owners → tokens[i]? = some t) (h : first ≤ offset) :
    ownersAt offset (runsFrom first owners) = (owners[offset - first]?.join).toList := by
  induction owners generalizing first with
  | nil => rfl
  | cons owner rest ih =>
      have hrest := runsFrom_ascending (first + 1) rest
      have htail : ∀ t i, some (t, i) ∈ rest → tokens[i]? = some t :=
        fun t i hmem => howners t i (List.mem_cons_of_mem _ hmem)
      have hlater : offset ≠ first → ownersAt offset (runsFrom (first + 1) rest) =
          ((owner :: rest)[offset - first]?.join).toList := by
        intro hne
        have hsucc : offset - first = offset - (first + 1) + 1 := by omega
        rw [hsucc, List.getElem?_cons_succ]
        exact ih htail (by omega)
      cases owner with
      | none =>
          by_cases hoff : offset = first
          · subst hoff
            rw [runsFrom, ownersAt_of_lt hrest (Nat.lt_succ_self offset)]
            simp
          · exact hlater hoff
      | some x =>
          rcases x with ⟨t, i⟩
          -- What is to be shown of a list of runs, however its first run came about.
          have hfirst : (if offset = first then [(t, i)]
              else ownersAt offset (runsFrom (first + 1) rest)) =
              ((some (t, i) :: rest)[offset - first]?.join).toList := by
            by_cases hoff : offset = first
            · simp [hoff]
            · rw [if_neg hoff]
              exact hlater hoff
          rw [← hfirst]
          simp only [runsFrom]
          cases hruns : runsFrom (first + 1) rest with
          | nil => exact ownersAt_single (hruns ▸ hrest)
          | cons run more =>
              rcases run with ⟨u, j, s⟩
              rw [hruns] at hrest
              simp only []
              split
              · rename_i hmerge
                rcases hmerge with ⟨rfl, hstart⟩
                -- Tokens are compared by their numbers; equal numbers are equal tokens.
                have hu : tokens[j]? = some u :=
                  htail u j (mem_runsFrom (hruns ▸ List.mem_cons_self))
                have htu : t = u :=
                  Option.some.inj ((howners t j List.mem_cons_self).symm.trans hu)
                subst htu
                exact ownersAt_grown hstart hrest
              · exact ownersAt_single hrest

/-! ## What is seen of all tokens -/

theorem firstByte_le {t : Token} (h : t ∈ tokens) : firstByte tokens ≤ t.range.span.start :=
  List.min?_getD_le_of_mem (List.mem_map.2 ⟨t, h, rfl⟩)

theorem le_lastByte {t : Token} (h : t ∈ tokens) : t.range.span.stop ≤ lastByte tokens :=
  List.le_max?_getD_of_mem (List.mem_map.2 ⟨t, h, rfl⟩)

/-- The bytes that any token can cover, with the token that is seen at each. -/
def ownersOf (tokens : List Token) : List (Option (Token × Nat)) :=
  (List.range' (firstByte tokens) (lastByte tokens - firstByte tokens)).map
    (owner? (paintOrder tokens))

theorem getElem?_of_mem_ownersOf {t : Token} {i : Nat} (h : some (t, i) ∈ ownersOf tokens) :
    tokens[i]? = some t := by
  rcases List.mem_map.1 h with ⟨offset, -, howner⟩
  exact (owner?_spec howner).1

theorem visibleRuns_eq (tokens : List Token) :
    visibleRuns tokens =
      (runsFrom (firstByte tokens) (ownersOf tokens)).map fun run =>
        (run.1.category, run.2.2) := rfl

/-- What is seen comes in order, and no byte is seen twice. -/
theorem visibleRuns_ascending (tokens : List Token) :
    Span.Ascending (firstByte tokens) (firstByte tokens + (lastByte tokens - firstByte tokens))
      ((visibleRuns tokens).map (·.2)) := by
  have hruns := runsFrom_ascending (firstByte tokens) (ownersOf tokens)
  simpa [visibleRuns_eq, runSpans, ownersOf, Function.comp_def] using hruns

/-- The classes of the runs that hold a byte: that of the token which is seen there. -/
theorem categories_visibleRuns (tokens : List Token) (offset : Nat) :
    ((visibleRuns tokens).filter (·.2.contains offset)).map (·.1) =
      ((owner? (paintOrder tokens) offset).map (·.1.category)).toList := by
  have hmap : ((visibleRuns tokens).filter (·.2.contains offset)).map (·.1) =
      (ownersAt offset (runsFrom (firstByte tokens) (ownersOf tokens))).map (·.1.category) := by
    simp [visibleRuns_eq, ownersAt, List.filter_map, Function.comp_def]
  have howners : ∀ t i, some (t, i) ∈ ownersOf tokens → tokens[i]? = some t :=
    fun _ _ => getElem?_of_mem_ownersOf
  have hunseen : (∀ t ∈ tokens, t.range.span.contains offset = false) →
      owner? (paintOrder tokens) offset = none := owner?_eq_none_iff.2
  rw [hmap]
  by_cases hlow : firstByte tokens ≤ offset
  · -- From the first byte on, the owners are looked up by index; behind the last there are none.
    rw [ownersAt_runsFrom howners hlow]
    by_cases hhigh : offset - firstByte tokens < lastByte tokens - firstByte tokens
    · have hget : (ownersOf tokens)[offset - firstByte tokens]? =
          some (owner? (paintOrder tokens) offset) := by
        simp only [ownersOf, List.getElem?_map, List.getElem?_range' hhigh, Option.map_some,
          Nat.one_mul]
        rw [Nat.add_sub_cancel' hlow]
      rw [hget]
      cases owner? (paintOrder tokens) offset <;> rfl
    · have hnone : owner? (paintOrder tokens) offset = none := by
        apply hunseen
        intro t ht
        have hstop := le_lastByte ht
        simp only [Span.contains]
        grind
      have hget : (ownersOf tokens)[offset - firstByte tokens]? = none := by
        rw [List.getElem?_eq_none_iff]
        simpa [ownersOf] using Nat.not_lt.1 hhigh
      rw [hget, hnone]
      rfl
  · have hnone : owner? (paintOrder tokens) offset = none := by
      apply hunseen
      intro t ht
      have hstart := firstByte_le ht
      simp only [Span.contains]
      grind
    rw [ownersAt_of_lt (runsFrom_ascending _ _) (Nat.lt_of_not_le hlow), hnone]
    rfl

end Editor
end EmbeddedSql

import EmbeddedSql.Document
import EmbeddedSql.Proofs.Text.Cuts

/-!
# Spans — lists of spans in document order

Most results of a pass are lists of spans that do not touch each other and come in the order in
which they stand in the text.  Two properties say so, one of numbers and one of the text itself:

* `Span.Ascending low high spans` — nonempty spans, one after the other, between two offsets;
* `Span.Ascending.mem`, `Span.Ascending.pairwise` — what it says of one span and of two;
* `Span.Ascending.append`, `Span.Ascending.flatMap` — longer lists from shorter ones;
* `Span.Carved offset text spans` — the spans hold whole, nonempty parts of a text, in order;
* `Span.Carved.skip`, `Span.Carved.take` — how a scan over the text builds such a list;
* `Span.Carved.mem` — what it says of one span;
* `Span.Carved.ascending` — carved spans ascend.
-/

namespace EmbeddedSql
namespace Span

/-- Nonempty spans between two offsets, each at or behind the end of the one before it. -/
def Ascending : (low high : Nat) → List Span → Prop
  | low, high, [] => low ≤ high
  | low, high, s :: rest => low ≤ s.start ∧ s.start < s.stop ∧ Ascending s.stop high rest

/-- One span lies inside another. -/
def Within (s t : Span) : Prop :=
  t.start ≤ s.start ∧ s.stop ≤ t.stop

instance (s t : Span) : Decidable (s.Within t) :=
  inferInstanceAs (Decidable (_ ∧ _))

theorem contains_iff {s : Span} {offset : Nat} :
    s.contains offset = true ↔ s.start ≤ offset ∧ offset < s.stop := by
  simp [contains]

/-- A span of whole characters that holds the last byte of a character holds all of it. -/
theorem contains_last {s : Span} {a b : List Char} {c : Char}
    (hstart : Text.IsBoundary (a ++ c :: b) s.start)
    (hstop : Text.IsBoundary (a ++ c :: b) s.stop) :
    s.contains (Text.byteLength a + c.utf8Size - 1) = s.contains (Text.byteLength a) := by
  have hpos : 0 < c.utf8Size := c.utf8Size_pos
  -- Neither bound of the span falls inside the character.
  have hfirst := hstart.le_or_le
  have hlast := hstop.le_or_le
  rw [Bool.eq_iff_iff, contains_iff, contains_iff]
  omega

namespace Ascending

variable {low mid high : Nat} {xs ys : List Span}

theorem low_le_high (h : Ascending low high xs) : low ≤ high := by
  induction xs generalizing low with
  | nil => exact h
  | cons s rest ih =>
      rcases h with ⟨hlow, hne, hrest⟩
      exact Nat.le_trans hlow (Nat.le_trans (Nat.le_of_lt hne) (ih hrest))

theorem mono_low (hle : low ≤ mid) (h : Ascending mid high xs) : Ascending low high xs := by
  cases xs with
  | nil => exact Nat.le_trans hle h
  | cons s rest => exact ⟨Nat.le_trans hle h.1, h.2⟩

theorem mono_high (hle : mid ≤ high) (h : Ascending low mid xs) : Ascending low high xs := by
  induction xs generalizing low with
  | nil => exact Nat.le_trans h hle
  | cons s rest ih => exact ⟨h.1, h.2.1, ih h.2.2⟩

theorem mem (h : Ascending low high xs) {s : Span} (hs : s ∈ xs) :
    low ≤ s.start ∧ s.start < s.stop ∧ s.stop ≤ high := by
  induction xs generalizing low with
  | nil => cases hs
  | cons t rest ih =>
      rcases h with ⟨hlow, hne, hrest⟩
      rcases List.mem_cons.1 hs with rfl | hmem
      · exact ⟨hlow, hne, hrest.low_le_high⟩
      · have hs := ih hrest hmem
        exact ⟨by omega, hs.2⟩

theorem pairwise (h : Ascending low high xs) : xs.Pairwise fun s t => s.stop ≤ t.start := by
  induction xs generalizing low with
  | nil => exact List.Pairwise.nil
  | cons s rest ih =>
      rcases h with ⟨-, -, hrest⟩
      refine List.Pairwise.cons ?_ (ih hrest)
      intro t ht
      exact (hrest.mem ht).1

/-- An offset lies in one span at most. -/
theorem index_eq_of_contains (h : Ascending low high xs) {i j n : Nat} {s t : Span}
    (hs : xs[i]? = some s) (ht : xs[j]? = some t) (hsn : s.contains n = true)
    (htn : t.contains n = true) : i = j := by
  have hbefore : ∀ {i j : Nat} {s t : Span}, xs[i]? = some s → xs[j]? = some t → i < j →
      s.stop ≤ t.start := by
    intro i j s t hs ht hij
    rcases List.getElem?_eq_some_iff.1 hs with ⟨hi, rfl⟩
    rcases List.getElem?_eq_some_iff.1 ht with ⟨hj, rfl⟩
    exact List.pairwise_iff_getElem.1 h.pairwise i j hi hj hij
  rw [contains_iff] at hsn htn
  rcases Nat.lt_trichotomy i j with hlt | heq | hgt
  · have hle := hbefore hs ht hlt
    omega
  · exact heq
  · have hle := hbefore ht hs hgt
    omega

theorem eq_of_contains (h : Ascending low high xs) {s t : Span} (hs : s ∈ xs) (ht : t ∈ xs)
    {n : Nat} (hsn : s.contains n = true) (htn : t.contains n = true) : s = t := by
  rcases List.mem_iff_getElem?.1 hs with ⟨i, hi⟩
  rcases List.mem_iff_getElem?.1 ht with ⟨j, hj⟩
  rw [h.index_eq_of_contains hi hj hsn htn, hj] at hi
  exact (Option.some.inj hi).symm

/-- Of things whose spans ascend, one at most has a given offset. -/
theorem filter_contains {α : Type} {f : α → Span} {things : List α}
    (h : Ascending low high (things.map f)) {x : α} (hx : x ∈ things) {n : Nat}
    (hn : (f x).contains n = true) : things.filter (fun y => (f y).contains n) = [x] := by
  rw [contains_iff] at hn
  induction things generalizing low with
  | nil => cases hx
  | cons y rest ih =>
      rcases h with ⟨-, -, hrest⟩
      rcases List.mem_cons.1 hx with rfl | hmem
      · -- The spans behind this one begin behind the offset.
        have hlater : ∀ z ∈ rest, ¬ (f z).contains n = true := by
          intro z hz
          have hstart := (hrest.mem (List.mem_map_of_mem hz)).1
          rw [contains_iff]
          omega
        rw [List.filter_cons, if_pos (contains_iff.2 hn), List.filter_eq_nil_iff.2 hlater]
      · have hstart := (hrest.mem (List.mem_map_of_mem hmem)).1
        have hy : ¬ (f y).contains n = true := by
          rw [contains_iff]
          omega
        rw [List.filter_cons, if_neg hy]
        exact ih hrest hmem

theorem append (hx : Ascending low mid xs) (hy : Ascending mid high ys) :
    Ascending low high (xs ++ ys) := by
  induction xs generalizing low with
  | nil => exact hy.mono_low hx
  | cons s rest ih => exact ⟨hx.1, hx.2.1, ih hx.2.2⟩

/-- Spans inside spans that ascend ascend as a whole. -/
theorem flatMap {α : Type} {f : α → Span} {parts : α → List Span} {things : List α}
    (h : Ascending low high (things.map f))
    (hparts : ∀ x ∈ things, Ascending (f x).start (f x).stop (parts x)) :
    Ascending low high (things.flatMap parts) := by
  induction things generalizing low with
  | nil => exact h
  | cons x rest ih =>
      rcases h with ⟨hlow, -, hrest⟩
      have hhere := (hparts x List.mem_cons_self).mono_low hlow
      have hlater := ih hrest fun y hy => hparts y (List.mem_cons_of_mem _ hy)
      exact hhere.append hlater

/-- Of nonempty parts of things whose spans ascend, those inside one thing are its own. -/
theorem filter_within {α β : Type} {f : α → Span} {g : β → Span} {parts : α → List β}
    {things : List α} (h : Ascending low high (things.map f))
    (hparts : ∀ x ∈ things, ∀ y ∈ parts x, (g y).start < (g y).stop ∧ (g y).Within (f x)) {x : α}
    (hx : x ∈ things) : (things.flatMap parts).filter (fun y => (g y).Within (f x)) = parts x := by
  induction things generalizing low with
  | nil => cases hx
  | cons z rest ih =>
      rcases h with ⟨-, -, hrest⟩
      have hhead := hparts z List.mem_cons_self
      have htail : ∀ x ∈ rest, ∀ y ∈ parts x, _ := fun x hx =>
        hparts x (List.mem_cons_of_mem _ hx)
      rw [List.flatMap_cons, List.filter_append]
      rcases List.mem_cons.1 hx with rfl | hmem
      · -- What is behind the thing starts behind its end.
        have hhere : (parts x).filter (fun y => (g y).Within (f x)) = parts x :=
          List.filter_eq_self.2 fun y hy => decide_eq_true (hhead y hy).2
        have hlater : (rest.flatMap parts).filter (fun y => (g y).Within (f x)) = [] := by
          refine List.filter_eq_nil_iff.2 fun y hy hwithin => ?_
          rcases List.mem_flatMap.1 hy with ⟨w, hw, hyw⟩
          have hstart := (hrest.mem (List.mem_map_of_mem hw)).1
          have hy := htail w hw y hyw
          have hstop := (of_decide_eq_true hwithin).2
          have hlow := hy.2.1
          omega
        rw [hhere, hlater, List.append_nil]
      · -- What is in front of the thing ends in front of its start.
        have hhere : (parts z).filter (fun y => (g y).Within (f x)) = [] := by
          refine List.filter_eq_nil_iff.2 fun y hy hwithin => ?_
          have hstart := (hrest.mem (List.mem_map_of_mem hmem)).1
          have hlow := (of_decide_eq_true hwithin).1
          have hy := hhead y hy
          have hstop := hy.2.2
          omega
        rw [hhere, List.nil_append]
        exact ih hrest htail hmem

theorem shift (n : Nat) (h : Ascending low high xs) :
    Ascending (n + low) (n + high) (xs.map (Span.shift n)) := by
  induction xs generalizing low with
  | nil => exact Nat.add_le_add_left h n
  | cons s rest ih =>
      exact ⟨Nat.add_le_add_left h.1 n, Nat.add_lt_add_left h.2.1 n, ih h.2.2⟩

end Ascending

/-! ## Spans of a text -/

/-- The spans hold nonempty parts of a text that starts at `offset`, one after the other. -/
def Carved : (offset : Nat) → (text : List Char) → List Span → Prop
  | _, _, [] => True
  | offset, text, s :: rest =>
    ∃ a b c, text = a ++ (b ++ c) ∧ b ≠ [] ∧ s.start = offset + Text.byteLength a ∧
      s.stop = s.start + Text.byteLength b ∧ Carved s.stop c rest

namespace Carved

variable {offset : Nat} {text : List Char} {spans : List Span}

theorem skip {a : List Char} (h : Carved (offset + Text.byteLength a) text spans) :
    Carved offset (a ++ text) spans := by
  cases spans with
  | nil => trivial
  | cons s rest =>
      rcases h with ⟨a', b, c, htext, hb, hstart, hstop, hrest⟩
      refine ⟨a ++ a', b, c, by simp [htext], hb, ?_, hstop, hrest⟩
      rw [hstart, Text.byteLength_append, Nat.add_assoc]

theorem take {b : List Char} (hb : b ≠ [])
    (h : Carved (offset + Text.byteLength b) text spans) :
    Carved offset (b ++ text) (⟨offset, offset + Text.byteLength b⟩ :: spans) :=
  ⟨[], b, text, rfl, hb, rfl, rfl, h⟩

/-- A span that starts where the text starts can be made longer by what stands in front of it. -/
theorem extend {a : List Char} {s : Span}
    (h : Carved (offset + Text.byteLength a) text (s :: spans))
    (hstart : s.start = offset + Text.byteLength a) :
    Carved offset (a ++ text) (⟨offset, s.stop⟩ :: spans) := by
  rcases h with ⟨a', b, c, htext, hb, hs, hstop, hrest⟩
  -- Nothing is skipped in front of the span, so `a` and its own part are one part.
  have hnil : a' = [] := Text.byteLength_eq_zero_iff.1 (by omega)
  refine ⟨[], a ++ b, c, by simp [htext, hnil], by simp [hb], rfl, ?_, hrest⟩
  simp only [Text.byteLength_append]
  omega

theorem mem (h : Carved offset text spans) {s : Span} (hs : s ∈ spans) :
    ∃ a b c, text = a ++ (b ++ c) ∧ b ≠ [] ∧ s.start = offset + Text.byteLength a ∧
      s.stop = s.start + Text.byteLength b := by
  induction spans generalizing offset text with
  | nil => cases hs
  | cons t rest ih =>
      rcases h with ⟨a, b, c, rfl, hb, hstart, hstop, hrest⟩
      rcases List.mem_cons.1 hs with rfl | hmem
      · exact ⟨a, b, c, rfl, hb, hstart, hstop⟩
      · -- Later spans are parts of what follows this one.
        rcases ih hrest hmem with ⟨a', b', c', rfl, hb', hstart', hstop'⟩
        refine ⟨a ++ (b ++ a'), b', c', by simp, hb', ?_, hstop'⟩
        rw [hstart', hstop, hstart, Text.byteLength_append, Text.byteLength_append]
        omega

theorem ascending (h : Carved offset text spans) :
    Ascending offset (offset + Text.byteLength text) spans := by
  induction spans generalizing offset text with
  | nil => exact Nat.le_add_right _ _
  | cons s rest ih =>
      rcases h with ⟨a, b, c, rfl, hb, hstart, hstop, hrest⟩
      have hpos : 0 < Text.byteLength b :=
        Nat.pos_of_ne_zero fun hzero => hb (Text.byteLength_eq_zero_iff.1 hzero)
      refine ⟨by omega, by omega, (ih hrest).mono_high ?_⟩
      simp only [Text.byteLength_append]
      omega

end Carved
end Span
end EmbeddedSql

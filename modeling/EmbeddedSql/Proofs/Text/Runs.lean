import EmbeddedSql.Document
import EmbeddedSql.Proofs.Text.Cuts
import Mathlib.Data.List.TakeWhile

/-!
# Runs — maximal stretches of one class of characters

The words of a text, its numbers and the quotes that stand side by side are runs: stretches of
characters of one class that cannot be made longer at either end.

* `Text.Run` — a stretch of characters and where it begins;
* `Text.IsRun`, `Text.Run.MaximalIn` — the maximal runs of a class in a text;
* `Text.exists_isRun` — where the class begins, a run does;
* `Text.Run.MaximalIn.eq_or_apart_of_le` — two of them are the same, or something stands between
  them;
* `Text.Run.MaximalIn.of_imp` — a run of a class is one of every smaller class that holds all of it.
-/

namespace EmbeddedSql
namespace Text

/-- Characters that stand together, and the offset of the first one. -/
structure Run where
  start : Nat
  chars : List Char
deriving DecidableEq, Repr

/-- All characters between two texts are of a class, and the nearest ones around them are not. -/
structure IsRun (p : Char → Bool) (before run after : List Char) : Prop where
  ne_nil : run ≠ []
  all : ∀ c ∈ run, p c = true
  left : ∀ c ∈ before.getLast?, p c = false
  right : ∀ c ∈ after.head?, p c = false

theorem IsRun.takeWhile_eq {p : Char → Bool} {before run after : List Char}
    (h : IsRun p before run after) : (run ++ after).takeWhile p = run := by
  rw [List.takeWhile_append_of_pos h.all]
  cases after with
  | nil => simp
  | cons c after =>
      have hc : p c = false := h.right c rfl
      simp [hc]

/-- A run goes on until the class ends. -/
theorem exists_isRun {p : Char → Bool} {before cs : List Char} {c : Char} (hc : p c = true)
    (hbefore : ∀ d ∈ before.getLast?, p d = false) :
    ∃ run after, cs = run ++ after ∧ IsRun p before (c :: run) after := by
  refine ⟨cs.takeWhile p, cs.dropWhile p, List.takeWhile_append_dropWhile.symm, by simp, ?_,
    hbefore, ?_⟩
  · intro d hd
    rcases List.mem_cons.1 hd with rfl | hd
    · exact hc
    · exact List.mem_takeWhile_imp hd
  · intro d hd
    have hnot := List.head?_dropWhile_not p cs
    rw [show (cs.dropWhile p).head? = some d from hd] at hnot
    simpa using hnot

/-- Of two runs in one text the second is the first, or begins behind it. -/
theorem IsRun.eq_or_behind {p : Char → Bool} {a w b a' u b' : List Char} (hw : IsRun p a w b)
    (hu : IsRun p a' u b') (heq : a ++ (w ++ b) = a' ++ (u ++ b'))
    (hle : byteLength a ≤ byteLength a') :
    (a = a' ∧ w = u) ∨ byteLength a + byteLength w < byteLength a' := by
  rcases exists_append_of_byteLength_le heq hle with ⟨x, rfl, hx⟩
  rcases List.append_eq_append_iff.1 hx with ⟨y, rfl, rfl⟩ | ⟨y, rfl, -⟩
  · -- The second run begins behind the end of the first one, and they do not touch.
    right
    have hy : y ≠ [] := by
      rintro rfl
      rcases List.exists_cons_of_ne_nil hu.ne_nil with ⟨c, cs, rfl⟩
      have hc : p c = true := hu.all c List.mem_cons_self
      simp [hw.right c rfl] at hc
    have hpos : 0 < byteLength y :=
      Nat.pos_of_ne_zero fun hzero => hy (byteLength_eq_zero_iff.1 hzero)
    simp only [byteLength_append]
    omega
  · -- It begins inside the first one, so nothing of the first one stands in front of it.
    left
    rcases List.eq_nil_or_concat x with rfl | ⟨x, c, rfl⟩
    · refine ⟨by simp, ?_⟩
      rw [← hw.takeWhile_eq, hx]
      exact hu.takeWhile_eq
    · have hc : p c = true := hw.all c (by simp)
      simp [hu.left c (by simp)] at hc

namespace Run

/-- The bytes of a run. -/
def span (r : Run) : Span :=
  ⟨r.start, r.start + byteLength r.chars⟩

/-- Something stands between two runs. -/
def Apart (r v : Run) : Prop :=
  r.span.stop < v.start

/-- A run of a text that cannot be made longer. -/
def MaximalIn (p : Char → Bool) (text : List Char) (r : Run) : Prop :=
  ∃ before after, text = before ++ (r.chars ++ after) ∧ byteLength before = r.start ∧
    IsRun p before r.chars after

namespace MaximalIn

variable {p q : Char → Bool} {text : List Char} {r v : Run}

theorem start_lt_stop (h : r.MaximalIn p text) : r.start < r.span.stop := by
  rcases h with ⟨_, _, _, _, hrun⟩
  have hpos : 0 < byteLength r.chars :=
    Nat.pos_of_ne_zero fun hzero => hrun.ne_nil (byteLength_eq_zero_iff.1 hzero)
  simp only [span]
  omega

theorem of_imp (h : r.MaximalIn q text) (himp : ∀ c, p c = true → q c = true)
    (hall : ∀ c ∈ r.chars, p c = true) : r.MaximalIn p text := by
  rcases h with ⟨before, after, htext, hstart, hrun⟩
  have hnot : ∀ c, q c = false → p c = false := by
    intro c hc
    rw [← Bool.not_eq_true] at hc ⊢
    exact mt (himp c) hc
  refine ⟨before, after, htext, hstart, hrun.ne_nil, hall, ?_, ?_⟩
  · exact fun c hc => hnot c (hrun.left c hc)
  · exact fun c hc => hnot c (hrun.right c hc)

theorem eq_or_apart_of_le (hr : r.MaximalIn p text) (hv : v.MaximalIn p text)
    (hle : r.start ≤ v.start) : r = v ∨ r.Apart v := by
  rcases hr with ⟨a, b, rfl, hstart, hw⟩
  rcases hv with ⟨a', b', heq, hstart', hu⟩
  rcases hw.eq_or_behind hu heq (by omega) with ⟨rfl, hchars⟩ | hbehind
  · left
    cases r
    cases v
    simp_all
  · right
    simp only [Apart, span]
    omega

end MaximalIn
end Run
end Text
end EmbeddedSql

import EmbeddedSql.Interpolation
import EmbeddedSql.Proofs.Document.Spans

/-!
# Runs — runs stand one behind the other

The splitter goes over a text once, so the runs are nonempty parts of the text, in order, whatever
the text is and wherever the scan stands.

* `Interpolation.scan_carves` — what the scan gives from every state;
* `Interpolation.runs_carved`, `Interpolation.runs_ascending` — the runs of a text are parts of it,
  which ascend and stay inside it.
-/

namespace EmbeddedSql
namespace Interpolation

open Text EmbeddedSql.Span

/-- The spans hold parts of what is still to come; in a run, also of what the run has read. -/
def State.Carves : State → (offset : Nat) → List Char → List Span → Prop
  | .run start, offset, cs, spans =>
    ∀ pre, offset = start + byteLength pre → Carved start (pre ++ cs) spans
  | _, offset, cs, spans => Carved offset cs spans

/-- What a run has read is a part of the text, unless it is empty. -/
theorem emit_carved {start : Nat} {pre cs : List Char} {spans : List Span}
    (h : Carved (start + byteLength pre) cs spans) :
    Carved start (pre ++ cs) (emit start (start + byteLength pre) ++ spans) := by
  by_cases hpre : pre = []
  · subst hpre
    simpa [emit] using h
  · have hpos : 0 < byteLength pre :=
      Nat.pos_of_ne_zero fun hzero => hpre (byteLength_eq_zero_iff.1 hzero)
    have hemit : emit start (start + byteLength pre) = [⟨start, start + byteLength pre⟩] := by
      simp only [emit]
      exact if_pos (by omega)
    rw [hemit]
    exact Carved.take hpre h

/-- A run that reads on keeps what it has read in front. -/
theorem State.Carves.read {start offset : Nat} {a cs : List Char} {spans : List Span}
    (h : (State.run start).Carves (offset + byteLength a) cs spans) :
    (State.run start).Carves offset (a ++ cs) spans := by
  intro pre hpre
  have hread : offset + byteLength a = start + byteLength (pre ++ a) := by
    rw [byteLength_append, hpre, Nat.add_assoc]
  simpa using h (pre ++ a) hread

theorem scan_carves (isQuote : Char → Bool) (state : State) (offset : Nat) (cs : List Char) :
    state.Carves offset cs (scan isQuote state offset cs) := by
  fun_induction scan isQuote state offset cs with
  | case1 start offset =>
      intro pre hpre
      subst hpre
      simpa using @emit_carved start pre [] [] trivial
  | case2 start offset cs ih => exact @State.Carves.read start offset ['{', '{'] cs _ ih
  | case3 start offset cs ih => exact @State.Carves.read start offset ['}', '}'] cs _ ih
  | case4 start offset cs hopen hclose ih =>
      intro pre hpre
      subst hpre
      exact emit_carved (@Carved.skip _ cs _ ['{'] ih)
  | case5 start offset c cs hopen hclose hne ih =>
      exact @State.Carves.read start offset [c] cs _ ih
  | case6 => trivial
  | case7 inner offset c cs hquote ih => exact @Carved.skip offset cs _ [c] ih
  | case8 inner offset cs hquote ih => exact @Carved.skip offset cs _ ['{'] ih
  | case9 offset cs hquote hopen ih =>
      -- The hole is closed: a run starts behind it, and has read nothing yet.
      exact @Carved.skip offset cs _ ['}'] (ih [] rfl)
  | case10 offset cs outer hquote hopen ih => exact @Carved.skip offset cs _ ['}'] ih
  | case11 inner offset c cs hquote hopen hclose ih => exact @Carved.skip offset cs _ [c] ih
  | case12 => trivial
  | case13 inner quote offset cs ih => exact @Carved.skip offset cs _ ['\\'] ih
  | case14 inner offset c cs hne ih => exact @Carved.skip offset cs _ [c] ih
  | case15 inner quote offset c cs hne hquote ih => exact @Carved.skip offset cs _ [c] ih
  | case16 => trivial
  | case17 inner quote offset c cs ih => exact @Carved.skip offset cs _ [c] ih

theorem runs_carved (text : List Char) : Carved 0 text (runs text) :=
  scan_carves isQuote (.run 0) 0 text [] rfl

theorem runs_ascending (text : List Char) : Ascending 0 (byteLength text) (runs text) := by
  simpa using (runs_carved text).ascending

end Interpolation
end EmbeddedSql

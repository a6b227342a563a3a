import EmbeddedSql.Proofs.Interpolation.Grammar
import EmbeddedSql.Proofs.Interpolation.Runs

/-!
# Partition — every text is runs, holes and a hidden end

The grammar of chunks and holes says what the splitter does on texts that follow it.  Here the text
is arbitrary: braces may be left over, strings in holes and holes themselves may stay open.  It is
made of runs and holes all the same, except for a hole at its end that stays open:

* `Interpolation.Holes`, `Interpolation.Unclosed` — complete holes side by side, and a hole that is
  never closed;
* `Interpolation.Layout` — runs with the holes in front of each, and what stands behind the last;
* `Interpolation.exists_layout` — every text has a layout, and the scan gives the runs of it;
* `Interpolation.runs_partition` — the runs of a text, and what stands between them.

A layout is built from the end of the text: a hole or a run is put in front of the layout of what
follows it.
-/

namespace EmbeddedSql
namespace Interpolation

open Text EmbeddedSql.Span

/-! ## Layouts -/

inductive Holes : List Char → Prop where
  | nil : Holes []
  | cons {h t : List Char} : Hole h → Holes t → Holes (h ++ t)

/-- A brace that opens a hole, and everything behind it, if the hole is never closed. -/
def Unclosed (t : List Char) : Prop :=
  (∃ w, t = '{' :: w ∧ w.head? ≠ some '{') ∧ ∀ h, h <+: t → ¬ Hole h

/-- A run and the holes in front of it. -/
structure Part where
  gap : List Char
  run : List Char
  holes : Holes gap
  plain : Plain run
  nonempty : run ≠ []

def Part.text (p : Part) : List Char :=
  p.gap ++ p.run

/-- The bytes of the runs of parts that start at `offset`. -/
def runSpans : (offset : Nat) → List Part → List Span
  | _, [] => []
  | offset, p :: rest =>
    ⟨offset + byteLength p.gap, offset + byteLength p.gap + byteLength p.run⟩ ::
      runSpans (offset + byteLength p.gap + byteLength p.run) rest

/-- A text taken apart.  Two runs have a hole between them, and behind the last run there are holes
and perhaps one that is never closed. -/
structure Layout where
  parts : List Part
  gap : List Char
  tail : List Char
  separated : ∀ p ∈ parts.tail, p.gap ≠ []
  holes : Holes gap
  hidden : tail = [] ∨ Unclosed tail

namespace Layout

def text (l : Layout) : List Char :=
  l.parts.flatMap Part.text ++ (l.gap ++ l.tail)

/-- Whether the text begins with a hole, if it has a run at all. -/
def Leads (l : Layout) : Prop :=
  ∀ p ∈ l.parts, p.gap ≠ []

/-- A layout without runs and holes. -/
def ending (tail : List Char) (h : tail = [] ∨ Unclosed tail) : Layout where
  parts := []
  gap := []
  tail := tail
  separated := by simp
  holes := .nil
  hidden := h

/-- A run in front of a layout. -/
def addRun (run : List Char) (hplain : Plain run) (hne : run ≠ []) (l : Layout) (hl : l.Leads) :
    Layout where
  parts := ⟨[], run, .nil, hplain, hne⟩ :: l.parts
  gap := l.gap
  tail := l.tail
  separated := hl
  holes := l.holes
  hidden := l.hidden

theorem text_addRun {run : List Char} (hplain : Plain run) (hne : run ≠ []) {l : Layout}
    (hl : l.Leads) : (l.addRun run hplain hne hl).text = run ++ l.text := by
  simp [text, addRun, Part.text]

theorem runSpans_addRun {run : List Char} (hplain : Plain run) (hne : run ≠ []) {l : Layout}
    (hl : l.Leads) (offset : Nat) :
    runSpans offset (l.addRun run hplain hne hl).parts =
      ⟨offset, offset + byteLength run⟩ :: runSpans (offset + byteLength run) l.parts :=
  rfl

end Layout

theorem Hole.ne_nil {h : List Char} (hh : Hole h) : h ≠ [] := by
  rcases hh with ⟨b, -, -, rfl⟩
  simp

/-- A hole in front of a layout joins the holes that the layout begins with. -/
theorem Layout.exists_addHole {hole : List Char} (hhole : Hole hole) (l : Layout) :
    ∃ l' : Layout, l'.text = hole ++ l.text ∧ l'.Leads ∧
      ∀ offset, runSpans offset l'.parts = runSpans (offset + byteLength hole) l.parts := by
  rcases l with ⟨parts, gap, tail, hseparated, hholes, hhidden⟩
  cases parts with
  | nil =>
      refine ⟨⟨[], hole ++ gap, tail, by simp, .cons hhole hholes, hhidden⟩, ?_, ?_, ?_⟩
      · simp [text]
      · intro p hp
        cases hp
      · intro offset
        rfl
  | cons p rest =>
      -- Only the first run gets another hole; the others are separated as they were.
      refine ⟨⟨{ p with gap := hole ++ p.gap, holes := .cons hhole p.holes } :: rest, gap, tail,
        hseparated, hholes, hhidden⟩, ?_, ?_, ?_⟩
      · simp [text, Part.text]
      · intro q hq
        rcases List.mem_cons.1 hq with rfl | hq
        · simp [hhole.ne_nil]
        · exact hseparated q hq
      · intro offset
        simp only [runSpans, byteLength_append, Nat.add_assoc]

/-! ## Every text has a layout -/

/-- A text is plain up to a brace that is alone, or to its end. -/
theorem exists_plain : ∀ text : List Char, ∃ p rest, text = p ++ rest ∧ Plain p ∧
    (rest = [] ∨ ∃ w, rest = '{' :: w ∧ w.head? ≠ some '{')
  | [] => ⟨[], [], rfl, .nil, .inl rfl⟩
  | c :: cs => by
      by_cases hc : c = '{'
      · subst hc
        by_cases hpair : cs.head? = some '{'
        · -- Two braces are taken at once.
          rcases List.head?_eq_some_iff.1 hpair with ⟨ds, rfl⟩
          rcases exists_plain ds with ⟨p, rest, rfl, hp, hrest⟩
          exact ⟨'{' :: '{' :: p, rest, rfl, .pair hp, hrest⟩
        · exact ⟨[], '{' :: cs, rfl, .nil, .inr ⟨cs, rfl, hpair⟩⟩
      · rcases exists_plain cs with ⟨p, rest, rfl, hp, hrest⟩
        exact ⟨c :: p, rest, rfl, .char hc hp, hrest⟩

theorem hole_or_unclosed {w : List Char} (hhead : w.head? ≠ some '{') :
    (∃ hole rest, Hole hole ∧ '{' :: w = hole ++ rest) ∨ Unclosed ('{' :: w) := by
  by_cases hclosed : ∃ hole, hole <+: '{' :: w ∧ Hole hole
  · rcases hclosed with ⟨hole, ⟨rest, hrest⟩, hhole⟩
    exact .inl ⟨hole, rest, hhole, hrest.symm⟩
  · refine .inr ⟨⟨w, rfl, hhead⟩, ?_⟩
    intro hole hprefix hhole
    exact hclosed ⟨hole, hprefix, hhole⟩

theorem emit_plain {run : List Char} (hne : run ≠ []) (offset : Nat) :
    emit offset (offset + byteLength run) = [⟨offset, offset + byteLength run⟩] := by
  have hpos : byteLength run ≠ 0 := fun hzero => hne (byteLength_eq_zero_iff.1 hzero)
  exact if_pos (by omega)

theorem exists_layout (text : List Char) (offset : Nat) :
    ∃ l : Layout, l.text = text ∧
      scan isQuote (.run offset) offset text = runSpans offset l.parts := by
  rcases exists_plain text with ⟨run, rest, htext, hplain, hrest⟩
  -- What follows the run has a layout that leads with a hole, and the scan ends the run there.
  have hbehind : ∃ l : Layout, l.text = rest ∧ l.Leads ∧
      scan isQuote (.run offset) (offset + byteLength run) rest =
        emit offset (offset + byteLength run) ++ runSpans (offset + byteLength run) l.parts := by
    rcases hrest with rfl | ⟨w, rfl, hhead⟩
    · refine ⟨.ending [] (.inl rfl), rfl, ?_, by simp [Layout.ending, runSpans]⟩
      intro p hp
      cases hp
    · rcases hole_or_unclosed hhead with ⟨hole, rest', hhole, hw⟩ | hunclosed
      · have hshorter : rest'.length < text.length := by
          have hpos := List.length_pos_iff.2 hhole.ne_nil
          rw [htext, hw, List.length_append, List.length_append]
          omega
        rcases exists_layout rest' (offset + byteLength run + byteLength hole) with
          ⟨l, hl, hscan⟩
        rcases l.exists_addHole hhole with ⟨l', htext', hleads, hspans⟩
        refine ⟨l', by rw [htext', hl, hw], hleads, ?_⟩
        rw [hw, scan_hole hhole, hscan, hspans]
      · refine ⟨.ending ('{' :: w) (.inr hunclosed), rfl, ?_, ?_⟩
        · intro p hp
          cases hp
        · rw [scan_unclosed hhead hunclosed.2]
          simp [Layout.ending, runSpans]
  rcases hbehind with ⟨l, hl, hleads, hscan⟩
  rw [htext, scan_plain hplain, hscan]
  by_cases hne : run = []
  · subst hne
    exact ⟨l, hl, by simp [emit]⟩
  · refine ⟨l.addRun run hplain hne hleads, ?_, ?_⟩
    · rw [Layout.text_addRun, hl]
    · rw [emit_plain hne, Layout.runSpans_addRun]
      rfl
termination_by text.length

/-! ## Runs -/

/-- A plain text is one run. -/
theorem runs_plain {run : List Char} (hplain : Plain run) (hne : run ≠ []) :
    runs run = [⟨0, byteLength run⟩] := by
  have hscan := @scan_plain 0 0 [] run hplain
  rw [List.append_nil, scan_run_nil, emit_plain hne, Nat.zero_add] at hscan
  exact hscan

/-- The runs of any text are nonempty parts of it that end between characters and follow each other.
The text is put together from them: there are only complete holes in front of the first run, at
least one complete hole between two runs, and behind the last run complete holes and at most one
hole that is never closed.  In no run a brace opens a hole, so that each is its only run if it is
split again. -/
theorem runs_partition (text : List Char) :
    (∀ s ∈ runs text, s.start < s.stop ∧ IsBoundary text s.start ∧ IsBoundary text s.stop) ∧
    ((runs text).Pairwise fun s t => s.start < t.start ∧ s.stop ≤ t.start) ∧
    ∃ l : Layout, text = l.parts.flatMap (fun p => p.gap ++ p.run) ++ (l.gap ++ l.tail) ∧
      runs text = runSpans 0 l.parts ∧
      ∀ p ∈ l.parts, runs p.run = [⟨0, byteLength p.run⟩] := by
  have hcarved : Carved 0 text (runs text) := runs_carved text
  have hnonempty : ∀ s ∈ runs text, s.start < s.stop :=
    fun s hs => (runs_ascending text).mem hs |>.2.1
  refine ⟨?_, ?_, ?_⟩
  · intro s hs
    rcases hcarved.mem hs with ⟨a, b, c, htext, -, hstart, hstop⟩
    refine ⟨hnonempty s hs, ⟨a, b ++ c, htext, by omega⟩, ⟨a ++ b, c, by simp [htext], ?_⟩⟩
    rw [byteLength_append]
    omega
  · refine (runs_ascending text).pairwise.imp_of_mem ?_
    intro s t hs _ hle
    exact ⟨Nat.lt_of_lt_of_le (hnonempty s hs) hle, hle⟩
  · rcases exists_layout text 0 with ⟨l, htext, hruns⟩
    exact ⟨l, htext.symm, hruns, fun p _ => runs_plain p.plain p.nonempty⟩

end Interpolation
end EmbeddedSql

import EmbeddedSql.Interpolation
import EmbeddedSql.Proofs.Document.Spans

/-!
# Grammar — the texts that the scan for holes takes apart

An interpolated text is written as chunks and holes.  The grammar of both is given by inductive
predicates, which know nothing of states, depths and offsets:

* `Interpolation.Plain` — text in which every `{` is doubled, so that none opens a hole;
* `Interpolation.Chunk` — text in which every brace is doubled;
* `Interpolation.Body`, `Interpolation.Hole` — what may stand in a hole, and a complete hole;
* `Interpolation.assemble`, `Interpolation.chunkSpans` — chunks and holes one after the other, and
  the bytes of the chunks.

The scan goes over a chunk, a quoted string, a body and a hole in one step each, whatever follows.
It leaves a hole only where the grammar closes one (`Interpolation.body_closes_or`), so a hole that
is never closed gives no run.  `Interpolation.runs_assemble` puts these together.
-/

namespace EmbeddedSql
namespace Interpolation

open Text

/-! ## The grammar -/

inductive Plain : List Char → Prop where
  | nil : Plain []
  | char {c : Char} {cs : List Char} : c ≠ '{' → Plain cs → Plain (c :: cs)
  | pair {cs : List Char} : Plain cs → Plain ('{' :: '{' :: cs)

inductive Chunk : List Char → Prop where
  | nil : Chunk []
  | char {c : Char} {cs : List Char} : c ≠ '{' → c ≠ '}' → Chunk cs → Chunk (c :: cs)
  | openingPair {cs : List Char} : Chunk cs → Chunk ('{' :: '{' :: cs)
  | closingPair {cs : List Char} : Chunk cs → Chunk ('}' :: '}' :: cs)

theorem Chunk.plain {chunk : List Char} (h : Chunk chunk) : Plain chunk := by
  induction h with
  | nil => exact .nil
  | char hopen _ _ ih => exact .char hopen ih
  | openingPair _ ih => exact .pair ih
  | closingPair _ ih => exact .char (by decide) (.char (by decide) ih)

def IsQuoteMark (q : Char) : Prop :=
  q = '"' ∨ q = '\''

instance (q : Char) : Decidable (IsQuoteMark q) :=
  inferInstanceAs (Decidable (_ ∨ _))

/-- What may stand between two quotes `q`. -/
inductive QuotedText (q : Char) : List Char → Prop where
  | nil : QuotedText q []
  | escape {c : Char} {cs : List Char} : QuotedText q cs → QuotedText q ('\\' :: c :: cs)
  | char {c : Char} {cs : List Char} :
      c ≠ q → c ≠ '\\' → QuotedText q cs → QuotedText q (c :: cs)

inductive Body : List Char → Prop where
  | nil : Body []
  | char {c : Char} {cs : List Char} :
      c ≠ '{' → c ≠ '}' → ¬ IsQuoteMark c → Body cs → Body (c :: cs)
  | quoted {q : Char} {s cs : List Char} :
      IsQuoteMark q → QuotedText q s → Body cs → Body (q :: (s ++ q :: cs))
  | group {b cs : List Char} : Body b → Body cs → Body ('{' :: (b ++ '}' :: cs))

/-- A complete hole.  Its body does not begin with a brace, since `{{` is an escaped brace. -/
def Hole (h : List Char) : Prop :=
  ∃ b, Body b ∧ b.head? ≠ some '{' ∧ h = '{' :: (b ++ ['}'])

/-- Chunks with a hole behind each, and a last chunk. -/
def assemble : List (List Char × List Char) → List Char → List Char
  | [], last => last
  | (chunk, hole) :: rest, last => chunk ++ (hole ++ assemble rest last)

/-- The bytes of every chunk of an assembled text that starts at `offset`. -/
def chunkSpans : (offset : Nat) → List (List Char × List Char) → List Char → List Span
  | offset, [], last => [⟨offset, offset + byteLength last⟩]
  | offset, (chunk, hole) :: rest, last =>
    ⟨offset, offset + byteLength chunk⟩ ::
      chunkSpans (offset + byteLength chunk + byteLength hole) rest last

/-! ## The scan over parts of the grammar -/

variable {start offset inner : Nat} {q c : Char} {cs : List Char}

theorem isQuote_iff : isQuote c = true ↔ IsQuoteMark c := by
  simp [isQuote, IsQuoteMark]

theorem IsQuoteMark.ne_backslash (h : IsQuoteMark q) : q ≠ '\\' := by
  rcases h with rfl | rfl <;> decide

theorem scan_run_char {opens : Char → Bool} (hopen : c ≠ '{') (hclose : c ≠ '}') :
    scan opens (.run start) offset (c :: cs) =
      scan opens (.run start) (offset + c.utf8Size) cs := by
  rw [scan, if_neg hopen]
  · intro ds h
    exact absurd h hopen
  · intro ds h
    exact absurd h hclose

theorem scan_run_opening {opens : Char → Bool} (h : cs.head? ≠ some '{') :
    scan opens (.run start) offset ('{' :: cs) =
      emit start offset ++ scan opens (.hole 0) (offset + 1) cs := by
  cases cs with
  | nil => simp [scan]
  | cons d ds =>
      have hd : d ≠ '{' := by simpa using h
      rw [scan, if_pos rfl]
      · intro es _ heq
        exact absurd (List.cons.inj heq).1 hd
      · intro es heq
        exact absurd heq (by decide)

theorem scan_run_closing {opens : Char → Bool} (h : cs.head? ≠ some '}') :
    scan opens (.run start) offset ('}' :: cs) = scan opens (.run start) (offset + 1) cs := by
  rw [scan, if_neg (by decide)]
  · rfl
  · intro ds heq
    exact absurd heq (by decide)
  · rintro ds - rfl
    exact h rfl

/-- In a run a `}` is a character like any other, also where two of them are read at once. -/
theorem scan_run_brace {opens : Char → Bool} : ∀ (offset : Nat) (cs : List Char),
    scan opens (.run start) offset ('}' :: cs) = scan opens (.run start) (offset + 1) cs
  | offset, [] => scan_run_closing (by simp)
  | offset, c :: cs => by
      by_cases hc : c = '}'
      · subst hc
        rw [scan, scan_run_brace (offset + 1) cs]
      · exact scan_run_closing (by simpa using hc)

theorem scan_plain {p : List Char} (h : Plain p) :
    scan isQuote (.run start) offset (p ++ cs) =
      scan isQuote (.run start) (offset + byteLength p) cs := by
  induction h generalizing offset with
  | nil => simp
  | @char c p hopen _ ih =>
      have hstep : scan isQuote (.run start) offset (c :: (p ++ cs)) =
          scan isQuote (.run start) (offset + c.utf8Size) (p ++ cs) := by
        by_cases hclose : c = '}'
        · subst hclose
          exact scan_run_brace offset (p ++ cs)
        · exact scan_run_char hopen hclose
      rw [List.cons_append, hstep, ih, byteLength_cons, Nat.add_assoc]
  | pair _ ih =>
      have hone : '{'.utf8Size = 1 := rfl
      simp only [List.cons_append, scan, ih, byteLength_cons, hone]
      congr 1
      omega

theorem scan_chunk {chunk : List Char} (h : Chunk chunk) :
    scan isQuote (.run start) offset (chunk ++ cs) =
      scan isQuote (.run start) (offset + byteLength chunk) cs :=
  scan_plain h.plain

theorem scan_quotedText {s : List Char} (h : QuotedText q s) :
    scan isQuote (.quoted inner q) offset (s ++ cs) =
      scan isQuote (.quoted inner q) (offset + byteLength s) cs := by
  induction h generalizing offset with
  | nil => simp
  | escape _ ih =>
      have hone : '\\'.utf8Size = 1 := rfl
      simp only [List.cons_append, scan, if_true, ih, byteLength_cons, hone, Nat.add_assoc]
  | char hq hslash _ ih =>
      simp only [List.cons_append, scan, hq, hslash, if_false, ih, byteLength_cons, Nat.add_assoc]

theorem scan_hole_quote (hq : IsQuoteMark q) :
    scan isQuote (.hole inner) offset (q :: cs) =
      scan isQuote (.quoted inner q) (offset + q.utf8Size) cs := by
  have hquote : isQuote q = true := isQuote_iff.2 hq
  cases inner <;> simp [scan, hquote]

theorem scan_quoted {s : List Char} (hq : IsQuoteMark q) (h : QuotedText q s) :
    scan isQuote (.hole inner) offset (q :: (s ++ q :: cs)) =
      scan isQuote (.hole inner) (offset + byteLength (q :: (s ++ [q]))) cs := by
  rw [scan_hole_quote hq, scan_quotedText h, scan, if_neg hq.ne_backslash, if_pos rfl]
  simp only [byteLength_cons, byteLength_append, byteLength_nil, Nat.add_assoc, Nat.add_zero]

theorem scan_hole_opening :
    scan isQuote (.hole inner) offset ('{' :: cs) =
      scan isQuote (.hole (inner + 1)) (offset + 1) cs := by
  simp [scan, isQuote]

theorem scan_hole_closing :
    scan isQuote (.hole (inner + 1)) offset ('}' :: cs) =
      scan isQuote (.hole inner) (offset + 1) cs := by
  simp [scan, isQuote]

theorem scan_hole_char (hopen : c ≠ '{') (hclose : c ≠ '}') (hquote : ¬ IsQuoteMark c) :
    scan isQuote (.hole inner) offset (c :: cs) =
      scan isQuote (.hole inner) (offset + c.utf8Size) cs := by
  have hnot : ¬ isQuote c = true := fun h => hquote (isQuote_iff.1 h)
  cases inner <;> simp [scan, hnot, hopen, hclose]

theorem scan_body {b : List Char} (h : Body b) :
    scan isQuote (.hole inner) offset (b ++ cs) =
      scan isQuote (.hole inner) (offset + byteLength b) cs := by
  induction h generalizing inner offset cs with
  | nil => simp
  | char hopen hclose hquote _ ih =>
      rw [List.cons_append, scan_hole_char hopen hclose hquote, ih, byteLength_cons, Nat.add_assoc]
  | @quoted q s rest hq hs _ ih =>
      have happend : q :: (s ++ q :: rest) ++ cs = q :: (s ++ q :: (rest ++ cs)) := by simp
      rw [happend, scan_quoted hq hs, ih]
      simp only [byteLength_cons, byteLength_append, byteLength_nil, Nat.add_assoc, Nat.add_zero]
  | @group b rest _ _ ihb ihrest =>
      -- One level deeper over the inner body, and back up at its brace.
      have happend : '{' :: (b ++ '}' :: rest) ++ cs = '{' :: (b ++ '}' :: (rest ++ cs)) := by simp
      have hopen : '{'.utf8Size = 1 := rfl
      have hclose : '}'.utf8Size = 1 := rfl
      rw [happend, scan_hole_opening, ihb, scan_hole_closing, ihrest]
      simp only [byteLength_cons, byteLength_append, hopen, hclose, Nat.add_assoc]

/-- The scan over a hole ends the run in front of it and starts another one behind it. -/
theorem scan_hole {h : List Char} (hh : Hole h) :
    scan isQuote (.run start) offset (h ++ cs) =
      emit start offset ++
        scan isQuote (.run (offset + byteLength h)) (offset + byteLength h) cs := by
  rcases hh with ⟨b, hbody, hhead, rfl⟩
  have happend : '{' :: (b ++ ['}']) ++ cs = '{' :: (b ++ '}' :: cs) := by simp
  have hhead' : (b ++ '}' :: cs).head? ≠ some '{' := by
    cases b with
    | nil => simp
    | cons d ds => simpa using hhead
  have hopen : '{'.utf8Size = 1 := rfl
  have hclose : '}'.utf8Size = 1 := rfl
  rw [happend, scan_run_opening hhead', scan_body hbody, scan]
  simp [isQuote, hopen, hclose, Nat.add_assoc]

/-! ## Strings and holes that are never closed -/

theorem quotedText_closes_or (hq : q ≠ '\\') : ∀ cs : List Char,
    (∃ s rest, QuotedText q s ∧ cs = s ++ q :: rest) ∨
      ∀ inner offset, scan isQuote (.quoted inner q) offset cs = []
  | [] => .inr fun _ _ => by simp [scan]
  | c :: cs => by
      by_cases hslash : c = '\\'
      · subst hslash
        cases cs with
        | nil =>
            right
            intro inner offset
            simp [scan]
        | cons d ds =>
            -- The escaped character is skipped, whatever it is.
            rcases quotedText_closes_or hq ds with ⟨s, rest, hs, rfl⟩ | hopen
            · exact .inl ⟨'\\' :: d :: s, rest, .escape hs, rfl⟩
            · right
              intro inner offset
              simp [scan, hopen]
      · by_cases hc : c = q
        · subst hc
          exact .inl ⟨[], cs, .nil, rfl⟩
        · rcases quotedText_closes_or hq cs with ⟨s, rest, hs, rfl⟩ | hopen
          · exact .inl ⟨c :: s, rest, .char hc hslash hs, rfl⟩
          · right
            intro inner offset
            simp [scan, hslash, hc, hopen]

/-- Either a body can be read up to a brace that closes it, or the scan never leaves the hole.  The
recursion follows the scan; a group is a body, its brace and another body. -/
theorem body_closes_or (cs : List Char) :
    (∃ b rest, Body b ∧ cs = b ++ '}' :: rest) ∨
      ∀ inner offset, scan isQuote (.hole inner) offset cs = [] := by
  match cs with
  | [] =>
      right
      intro inner offset
      simp [scan]
  | c :: cs =>
      by_cases hquote : IsQuoteMark c
      · rcases quotedText_closes_or hquote.ne_backslash cs with ⟨s, rest, hs, hcs⟩ | hopen
        · have hshorter : rest.length < cs.length := by
            rw [hcs]
            simp
            omega
          rcases body_closes_or rest with ⟨b, rest', hb, hrest⟩ | hopen
          · left
            refine ⟨c :: (s ++ c :: b), rest', .quoted hquote hs hb, ?_⟩
            rw [hcs, hrest]
            simp
          · right
            intro inner offset
            rw [hcs, scan_quoted hquote hs, hopen]
        · right
          intro inner offset
          rw [scan_hole_quote hquote, hopen]
      · by_cases hopening : c = '{'
        · subst hopening
          rcases body_closes_or cs with ⟨b, rest, hb, hcs⟩ | hopen
          · -- The group is complete; what follows it decides.
            have hshorter : rest.length < cs.length := by
              rw [hcs]
              simp
              omega
            rcases body_closes_or rest with ⟨b', rest', hb', hrest⟩ | hopen
            · left
              refine ⟨'{' :: (b ++ '}' :: b'), rest', .group hb hb', ?_⟩
              rw [hcs, hrest]
              simp
            · right
              intro inner offset
              rw [scan_hole_opening, hcs, scan_body hb, scan_hole_closing, hopen]
          · right
            intro inner offset
            rw [scan_hole_opening, hopen]
        · by_cases hclosing : c = '}'
          · subst hclosing
            exact .inl ⟨[], cs, .nil, rfl⟩
          · rcases body_closes_or cs with ⟨b, rest, hb, hcs⟩ | hopen
            · left
              exact ⟨c :: b, rest, .char hopening hclosing hquote hb, by rw [hcs]; rfl⟩
            · right
              intro inner offset
              rw [scan_hole_char hopening hclosing hquote, hopen]
termination_by cs.length
decreasing_by
  all_goals simp_wf
  all_goals omega

/-- A brace that opens no complete hole hides everything behind it. -/
theorem scan_unclosed {w : List Char} (hhead : w.head? ≠ some '{')
    (hnone : ∀ h, h <+: '{' :: w → ¬ Hole h) :
    scan isQuote (.run start) offset ('{' :: w) = emit start offset := by
  rw [scan_run_opening hhead]
  rcases body_closes_or w with ⟨b, rest, hb, rfl⟩ | hopen
  · -- A body up to a closing brace would make a complete hole.
    exfalso
    refine hnone ('{' :: (b ++ ['}'])) ⟨rest, by simp⟩ ⟨b, hb, ?_, rfl⟩
    cases b with
    | nil => simp
    | cons d ds => simpa using hhead
  · rw [hopen, List.append_nil]

/-! ## Assembled texts -/

theorem emit_eq_filter (start stop : Nat) :
    emit start stop = [(⟨start, stop⟩ : Span)].filter (!·.isEmpty) := by
  by_cases h : start < stop
  · simp [emit, Span.isEmpty, h]
  · simp [emit, Span.isEmpty, h, Nat.not_lt.1 h]

/-- The runs of an assembled text, if what follows it ends the last run and starts no other. -/
theorem scan_assemble {pieces : List (List Char × List Char)} {last rest : List Char}
    (hpieces : ∀ p ∈ pieces, Chunk p.1 ∧ Hole p.2) (hlast : Chunk last)
    (hrest : ∀ start offset, scan isQuote (.run start) offset rest = emit start offset) :
    scan isQuote (.run offset) offset (assemble pieces last ++ rest) =
      (chunkSpans offset pieces last).filter (!·.isEmpty) := by
  induction pieces generalizing offset with
  | nil => rw [assemble, scan_chunk hlast, hrest, emit_eq_filter, chunkSpans]
  | cons p pieces ih =>
      rcases p with ⟨chunk, hole⟩
      rcases hpieces (chunk, hole) List.mem_cons_self with ⟨hchunk, hhole⟩
      have htail := fun p hp => hpieces p (List.mem_cons_of_mem _ hp)
      have happend : assemble ((chunk, hole) :: pieces) last ++ rest =
          chunk ++ (hole ++ (assemble pieces last ++ rest)) := by
        simp [assemble]
      rw [happend, scan_chunk hchunk, scan_hole hhole, ih htail, emit_eq_filter, chunkSpans,
        ← List.filter_append, List.singleton_append]

theorem length_chunkSpans (offset : Nat) (pieces : List (List Char × List Char))
    (last : List Char) : (chunkSpans offset pieces last).length = pieces.length + 1 := by
  induction pieces generalizing offset with
  | nil => rfl
  | cons p pieces ih => simp [chunkSpans, ih]

/-- The runs of chunks and holes, one after the other, are the nonempty chunks.  A brace behind them
that opens no complete hole changes nothing, whatever follows it. -/
theorem runs_assemble (pieces : List (List Char × List Char)) (last : List Char)
    (hpieces : ∀ p ∈ pieces, Chunk p.1 ∧ Hole p.2) (hlast : Chunk last) :
    runs (assemble pieces last) = (chunkSpans 0 pieces last).filter (!·.isEmpty) ∧
    (runs (assemble pieces last)).length ≤ pieces.length + 1 ∧
    ∀ w : List Char, w.head? ≠ some '{' → (∀ h, h <+: '{' :: w → ¬ Hole h) →
      runs (assemble pieces last ++ '{' :: w) =
        (chunkSpans 0 pieces last).filter (!·.isEmpty) := by
  have hruns : runs (assemble pieces last) = (chunkSpans 0 pieces last).filter (!·.isEmpty) := by
    have hend := @scan_assemble 0 pieces last [] hpieces hlast (scan_run_nil isQuote)
    simpa [runs] using hend
  refine ⟨hruns, ?_, ?_⟩
  · rw [hruns, ← length_chunkSpans 0 pieces last]
    exact List.length_filter_le _ _
  · intro w hhead hnone
    exact scan_assemble hpieces hlast fun _ _ => scan_unclosed hhead hnone

/-- A hole with a quoted brace and a group, between an escaped brace and a character of two bytes,
and an open hole behind all. -/
theorem runs_assemble_nested :
    Chunk ['{', '{'] ∧ Hole ['{', 'f', '\'', '}', '\'', '{', 'x', '}', '}'] ∧ Chunk ['é'] ∧
      runs ['{', '{', '{', 'f', '\'', '}', '\'', '{', 'x', '}', '}', 'é', '{', 'y'] =
        [⟨0, 2⟩, ⟨11, 13⟩] := by
  have hchunk : Chunk ['{', '{'] := .openingPair .nil
  have hlast : Chunk ['é'] := .char (by decide) (by decide) .nil
  have hgroup : Body ['{', 'x', '}'] :=
    @Body.group ['x'] [] (.char (by decide) (by decide) (by decide) .nil) .nil
  have hquoted : Body ['\'', '}', '\'', '{', 'x', '}'] :=
    @Body.quoted '\'' ['}'] _ (.inr rfl) (.char (by decide) (by decide) .nil) hgroup
  have hhole : Hole ['{', 'f', '\'', '}', '\'', '{', 'x', '}', '}'] :=
    ⟨_, .char (by decide) (by decide) (by decide) hquoted, by decide, rfl⟩
  refine ⟨hchunk, hhole, hlast, ?_⟩
  have hpieces : ∀ p ∈ [(['{', '{'], ['{', 'f', '\'', '}', '\'', '{', 'x', '}', '}'])],
      Chunk p.1 ∧ Hole p.2 := by
    intro p hp
    rw [List.mem_singleton.1 hp]
    exact ⟨hchunk, hhole⟩
  refine ((runs_assemble _ _ hpieces hlast).2.2 ['y'] (by decide) ?_).trans (by decide)
  rintro h hprefix ⟨b, -, -, rfl⟩
  have hmem : '}' ∈ ['{', 'y'] := hprefix.subset (by simp)
  exact absurd hmem (by decide)

end Interpolation
end EmbeddedSql

import EmbeddedSql.Proofs.Document.Index
import EmbeddedSql.Proofs.Literal.Quotes

/-!
# FlatScan — the end of a literal, on the bytes of the text

The closing quote of a literal is looked for line by line, on lines without the characters that end
them.  A literal is a stretch of the text all the same, and its end can be looked for on the bytes
of the text, line ends included, without any notion of a line.  Both searches stop at the same
quote, since what ends a line is no quote and so never belongs to a pair:

* `Text.loneQuote?` — the search on bytes;
* `Text.loneQuote?_append` — it may be cut wherever no quote follows;
* `Literal.closingFrom_eq`, `Literal.closingColumn?_eq` — the search on one line is one on bytes;
* `Document.stretch` — the bytes between two offsets;
* `Document.loneQuote?_line` — the search on bytes goes over one line and then over the next one;
* `Document.closing_quote_flat` — both searches give the same answer;
* `Document.closingQuote?_of_mem_literals` — it is where a literal of a region ends.
-/

namespace EmbeddedSql

open Text

/-! ## The search on bytes -/

namespace Text

/-- The byte of a double quote. -/
def quoteByte : UInt8 :=
  '"'.toUInt8

/-- The offset of the first quote that has no partner, in bytes of which the first has the given
offset.  Two quotes side by side are partners and are passed over together. -/
def loneQuote? : (offset : Nat) → List UInt8 → Option Nat
  | _, [] => none
  | offset, [b] => if b = quoteByte then some offset else none
  | offset, b :: next :: bs =>
    if b = quoteByte then
      if next = quoteByte then loneQuote? (offset + 2) bs else some offset
    else loneQuote? (offset + 1) (next :: bs)

variable {offset : Nat} {b : UInt8} {xs ys : List UInt8}

theorem loneQuote?_other (hb : b ≠ quoteByte) (offset : Nat) (xs : List UInt8) :
    loneQuote? offset (b :: xs) = loneQuote? (offset + 1) xs := by
  cases xs with
  | nil => simp [loneQuote?, hb]
  | cons next xs => rw [loneQuote?, if_neg hb]

theorem loneQuote?_pair (offset : Nat) (xs : List UInt8) :
    loneQuote? offset (quoteByte :: quoteByte :: xs) = loneQuote? (offset + 2) xs := by
  rw [loneQuote?, if_pos rfl, if_pos rfl]

theorem loneQuote?_alone (h : xs.head? ≠ some quoteByte) (offset : Nat) :
    loneQuote? offset (quoteByte :: xs) = some offset := by
  cases xs with
  | nil => rw [loneQuote?, if_pos rfl]
  | cons next xs =>
      have hnext : next ≠ quoteByte := by simpa using h
      rw [loneQuote?, if_pos rfl, if_neg hnext]

/-- Bytes without a quote are passed over. -/
theorem loneQuote?_skip (h : quoteByte ∉ xs) (offset : Nat) (ys : List UInt8) :
    loneQuote? offset (xs ++ ys) = loneQuote? (offset + xs.length) ys := by
  induction xs generalizing offset with
  | nil => rfl
  | cons b xs ih =>
      rw [List.mem_cons, not_or] at h
      rw [List.cons_append, loneQuote?_other (Ne.symm h.1), ih h.2, List.length_cons, Nat.add_assoc,
        Nat.add_comm 1]

/-- A search may be cut where no quote follows: no pair is separated. -/
theorem loneQuote?_append (hys : ys.head? ≠ some quoteByte) (offset : Nat) (xs : List UInt8) :
    loneQuote? offset (xs ++ ys) =
      (loneQuote? offset xs).or (loneQuote? (offset + xs.length) ys) := by
  fun_induction loneQuote? offset xs with
  | case1 offset => rfl
  | case2 offset => exact loneQuote?_alone hys offset
  | case3 offset b hb => exact loneQuote?_other hb offset ys
  | case4 offset bs ih =>
      have hlength : offset + (quoteByte :: quoteByte :: bs).length = offset + 2 + bs.length := by
        simp only [List.length_cons]
        omega
      rw [List.cons_append, List.cons_append, loneQuote?_pair, ih, hlength]
  | case5 offset next bs hnext => exact loneQuote?_alone (by simpa using hnext) offset
  | case6 offset b next bs hb ih =>
      have hlength : offset + (b :: next :: bs).length = offset + 1 + (next :: bs).length := by
        simp only [List.length_cons]
        omega
      rw [List.cons_append, loneQuote?_other hb, ih, hlength]

/-- The search counts from the offset of the first byte. -/
theorem loneQuote?_add (n offset : Nat) (xs : List UInt8) :
    loneQuote? (n + offset) xs = (loneQuote? offset xs).map (n + ·) := by
  fun_induction loneQuote? offset xs with
  | case1 offset => rfl
  | case2 offset => rfl
  | case3 offset b hb => exact loneQuote?_other hb (n + offset) []
  | case4 offset bs ih => rw [loneQuote?_pair, Nat.add_assoc, ih]
  | case5 offset next bs hnext => exact loneQuote?_alone (by simpa using hnext) (n + offset)
  | case6 offset b next bs hb ih => rw [loneQuote?_other hb, Nat.add_assoc, ih]

theorem loneQuote?_lt {stop : Nat} (h : loneQuote? offset xs = some stop) :
    stop < offset + xs.length := by
  fun_induction loneQuote? offset xs with
  | case1 => cases h
  | case2 =>
      cases h
      simp
  | case3 => cases h
  | case4 offset bs ih =>
      have hlt := ih h
      simp only [List.length_cons]
      omega
  | case5 =>
      cases h
      simp
  | case6 offset b next bs hb ih =>
      have hlt := ih h
      simp only [List.length_cons] at hlt ⊢
      omega

theorem quoteByte_ascii : '"'.toNat < 0x80 := by
  decide

/-- A byte of a quote at the head of a text is a quote. -/
theorem head?_bytes_ne {cs : List Char} (h : cs.head? ≠ some '"') :
    (bytes cs).head? ≠ some quoteByte := by
  cases cs with
  | nil => simp
  | cons c cs =>
      have hc : c ≠ '"' := by simpa using h
      rcases List.exists_cons_of_ne_nil (String.utf8EncodeChar_ne_nil (c := c)) with ⟨b, bs, hbytes⟩
      intro hhead
      rw [bytes_cons, hbytes, List.cons_append, List.head?_cons] at hhead
      have hmem : quoteByte ∈ String.utf8EncodeChar c := by
        rw [hbytes]
        exact List.mem_cons.2 (.inl (Option.some.inj hhead).symm)
      exact hc ((mem_utf8EncodeChar quoteByte_ascii).1 hmem)

end Text

/-! ## One line -/

namespace Literal

theorem closingFrom_eq (column : Nat) (cs : List Char) :
    closingFrom column cs = loneQuote? column (bytes cs) := by
  have hquote : ∀ cs, bytes ('"' :: cs) = quoteByte :: bytes cs := by
    intro cs
    rw [bytes_cons, utf8EncodeChar_ascii quoteByte_ascii]
    rfl
  fun_induction closingFrom column cs with
  | case1 => rfl
  | case2 column cs ih => rw [hquote, hquote, loneQuote?_pair, ih]
  | case3 column cs hpair =>
      rw [hquote, loneQuote?_alone (head?_bytes_ne ?_)]
      intro hhead
      rcases List.head?_eq_some_iff.1 hhead with ⟨rest, rfl⟩
      exact hpair rest rfl rfl
  | case4 column c cs _ hc ih =>
      have hnone : quoteByte ∉ String.utf8EncodeChar c :=
        mt (mem_utf8EncodeChar quoteByte_ascii).1 hc
      rw [bytes_cons, loneQuote?_skip hnone, String.length_utf8EncodeChar, ih]

/-- The start column may lie inside a character, of which the search then sees the last bytes. -/
theorem go_eq (start column : Nat) (cs : List Char) :
    closingColumn?.go start column cs =
      loneQuote? (max start column) ((bytes cs).drop (start - column)) := by
  fun_induction closingColumn?.go start column cs with
  | case1 column =>
      rw [bytes_nil, List.drop_nil]
      rfl
  | case2 column c cs hlt ih =>
      rw [ih, bytes_cons]
      by_cases hfits : column + c.utf8Size ≤ start
      · -- All of the character is in front of the start column.
        have hdrop : start - column = (String.utf8EncodeChar c).length +
            (start - (column + c.utf8Size)) := by
          rw [String.length_utf8EncodeChar]
          omega
        rw [hdrop, List.drop_length_add_append, Nat.max_eq_left hfits,
          Nat.max_eq_left (Nat.le_of_lt hlt)]
      · -- The character reaches beyond the start column, so it is no quote.
        have hc : c ≠ '"' := by
          rintro rfl
          have hone : '"'.utf8Size = 1 := rfl
          omega
        have hnone : quoteByte ∉ (String.utf8EncodeChar c).drop (start - column) := fun hmem =>
          hc ((mem_utf8EncodeChar quoteByte_ascii).1 (List.mem_of_mem_drop hmem))
        have hlen : start - column ≤ (String.utf8EncodeChar c).length := by
          rw [String.length_utf8EncodeChar]
          omega
        have hzero : start - (column + c.utf8Size) = 0 := by omega
        have hstop : max start column + ((String.utf8EncodeChar c).drop (start - column)).length =
            max start (column + c.utf8Size) := by
          rw [List.length_drop, String.length_utf8EncodeChar]
          omega
        rw [List.drop_append_of_le_length hlen, loneQuote?_skip hnone, hstop, hzero, List.drop_zero]
  | case3 column c cs hge =>
      have hle : start ≤ column := Nat.not_lt.1 hge
      rw [closingFrom_eq, Nat.max_eq_right hle, Nat.sub_eq_zero_of_le hle, List.drop_zero]

theorem closingColumn?_eq (start : Nat) (line : List Char) :
    closingColumn? start line = loneQuote? start ((bytes line).drop start) := by
  rw [closingColumn?, go_eq, Nat.max_eq_left (Nat.zero_le start), Nat.sub_zero]

theorem closingPosition?_cons (index start : Nat) (line : List Char) (rest : List (List Char)) :
    closingPosition? index start (line :: rest) =
      ((closingColumn? start line).map (Position.mk index)).or
        (closingPosition? (index + 1) 0 rest) := by
  rw [closingPosition?]
  cases closingColumn? start line with
  | none => rfl
  | some column => rfl

end Literal

/-! ## Many lines -/

namespace Document

variable {d : Document} {i column start stop : Nat}

/-- The bytes from one offset up to another. -/
def stretch (d : Document) (start stop : Nat) : List UInt8 :=
  ((bytes d.text).take stop).drop start

theorem stretch_self (d : Document) (stop : Nat) : d.stretch stop stop = [] :=
  List.drop_eq_nil_of_le (List.length_take_le _ _)

theorem length_stretch_le (d : Document) (start stop : Nat) :
    (d.stretch start stop).length ≤ d.length - start := by
  rw [stretch, List.length_drop, List.length_take, length_bytes]
  exact Nat.sub_le_sub_right (Nat.min_le_right _ _) start

/-- A stretch that begins in `x` is the rest of `x` and what follows it. -/
theorem stretch_append {a x b : List Char} (htext : d.text = a ++ (x ++ b))
    (hcolumn : column ≤ byteLength x) (hstop : byteLength (a ++ x) ≤ stop) :
    d.stretch (byteLength a + column) stop =
      (bytes x).drop column ++ d.stretch (byteLength (a ++ x)) stop := by
  have htake : (bytes d.text).take stop =
      bytes (a ++ x) ++ (bytes b).take (stop - byteLength (a ++ x)) := by
    rw [htext, ← List.append_assoc, bytes_append, List.take_append,
      List.take_of_length_le (by rwa [length_bytes]), length_bytes]
  rw [stretch, stretch, htake, bytes_append, List.append_assoc, ← length_bytes a,
    List.drop_length_add_append, List.drop_append_of_le_length (by rwa [length_bytes]),
    ← List.append_assoc, ← bytes_append, ← length_bytes (a ++ x), List.drop_left]

theorem head?_stretch_ne {a b : List Char} (htext : d.text = a ++ b) (hb : b.head? ≠ some '"')
    (stop : Nat) : (d.stretch (byteLength a) stop).head? ≠ some quoteByte := by
  rw [stretch, List.drop_take, htext, bytes_append, ← length_bytes a, List.drop_left,
    List.head?_take]
  split
  · simp
  · exact head?_bytes_ne hb

/-- The search on bytes passes over a part of the text without a quote. -/
theorem loneQuote?_part {a x b : List Char} (htext : d.text = a ++ (x ++ b))
    (hx : quoteByte ∉ bytes x) (hstop : byteLength (a ++ x) ≤ stop) :
    loneQuote? (byteLength a) (d.stretch (byteLength a) stop) =
      loneQuote? (byteLength (a ++ x)) (d.stretch (byteLength (a ++ x)) stop) := by
  have hcut := stretch_append htext (Nat.zero_le _) hstop
  rw [Nat.add_zero, List.drop_zero] at hcut
  rw [hcut, loneQuote?_skip hx, length_bytes, ← byteLength_append]

/-- What ends a line is no quote, so the search on bytes may be cut behind the line. -/
theorem loneQuote?_line (hi : i < d.lineCount) (hcolumn : column ≤ byteLength (d.line i))
    (hstop : d.lineEnd i ≤ stop) :
    loneQuote? (d.lineStart i + column) (d.stretch (d.lineStart i + column) stop) =
      (loneQuote? (d.lineStart i + column) ((bytes (d.line i)).drop column)).or
        (loneQuote? (d.lineEnd i) (d.stretch (d.lineEnd i) stop)) := by
  rcases exists_rowAt hi with ⟨above, below, hrow, hstart⟩
  generalize hending : endReturn (d.row i) = ending
  have hsplit : d.row i = d.line i ++ ending := by
    rw [line_eq, ← hending, stripReturn_append_endReturn]
  have htext : d.text = above ++ (d.line i ++ (ending ++ below)) := by
    rw [hrow.text, hsplit, List.append_assoc]
  have htext' : d.text = (above ++ d.line i) ++ (ending ++ below) := by
    rw [htext, List.append_assoc]
  have hend : byteLength (above ++ d.line i ++ ending) = d.lineEnd i := by
    rw [lineEnd_eq hi, List.append_assoc, ← hsplit, byteLength_append, hstart]
  have hle : byteLength (above ++ d.line i) ≤ stop := by
    rw [← hend, byteLength_append] at hstop
    omega
  -- Behind the line stands what ends it, or nothing.
  have hquote : quoteByte ∉ bytes ending ∧ (ending ++ below).head? ≠ some '"' := by
    rw [← hending, endReturn]
    split
    · exact ⟨by decide, by simp⟩
    · exact ⟨by decide, fun hhead => absurd (hrow.right '"' hhead) (by decide)⟩
  have hafter := loneQuote?_part htext' hquote.1 (Nat.le_trans (Nat.le_of_eq hend) hstop)
  have hlength : byteLength above + column + ((bytes (d.line i)).drop column).length =
      byteLength (above ++ d.line i) := by
    rw [List.length_drop, length_bytes, byteLength_append]
    omega
  rw [← hstart, stretch_append htext hcolumn hle,
    loneQuote?_append (head?_stretch_ne htext' hquote.2 stop), hlength, hafter, hend]

theorem loneQuote?_break (hi : i + 1 < d.lineCount) (hstop : d.lineStart (i + 1) ≤ stop) :
    loneQuote? (d.lineEnd i) (d.stretch (d.lineEnd i) stop) =
      loneQuote? (d.lineStart (i + 1)) (d.stretch (d.lineStart (i + 1)) stop) := by
  have hi' : i < d.lineCount := Nat.lt_of_succ_lt hi
  rcases text_eq_append_break hi with ⟨a, b, htext, ha⟩
  have htext' : d.text = (a ++ d.row i) ++ (['\n'] ++ b) := by
    rw [htext, List.append_assoc]
    rfl
  have hend : byteLength (a ++ d.row i) = d.lineEnd i := by
    rw [lineEnd_eq hi', byteLength_append, ha]
  have hnext : byteLength (a ++ d.row i ++ ['\n']) = d.lineStart (i + 1) := by
    rw [lineStart_succ hi', byteLength_append, byteLength_append, ha]
    rfl
  have hskip := loneQuote?_part htext' (by decide) (Nat.le_trans (Nat.le_of_eq hnext) hstop)
  rwa [hend, hnext] at hskip

theorem drop_lines (hi : i < d.lineCount) : d.lines.drop i = d.line i :: d.lines.drop (i + 1) := by
  have hi' : i < d.lines.length := hi
  rw [List.drop_eq_getElem_cons hi', line, List.getD_eq_getElem?_getD, List.getElem?_eq_getElem hi',
    Option.getD_some]

/-- One line: the search on bytes stops where the search on the line stops, or goes on behind it. -/
theorem loneQuote?_step (hi : i < d.lineCount) (hcolumn : column ≤ byteLength (d.line i))
    (hstop : d.lineEnd i ≤ stop) :
    (loneQuote? (d.lineStart i + column) (d.stretch (d.lineStart i + column) stop)).map
        d.positionAt =
      ((Literal.closingColumn? column (d.line i)).map (Position.mk i)).or
        ((loneQuote? (d.lineEnd i) (d.stretch (d.lineEnd i) stop)).map d.positionAt) := by
  rw [loneQuote?_line hi hcolumn hstop, loneQuote?_add, ← Literal.closingColumn?_eq, Option.map_or,
    Option.map_map]
  cases hclosing : Literal.closingColumn? column (d.line i) with
  | none => rfl
  | some c =>
      have hle : c ≤ byteLength (d.row i) := by
        rcases Literal.isBoundary_of_closingColumn? hclosing with ⟨a, b, hline, rfl⟩
        have hrow := d.byteLength_line_le i
        rw [hline, byteLength_append] at hrow
        omega
      have hpos : d.positionAt (d.lineStart i + c) = ⟨i, c⟩ := by
        rw [positionAt_eq hi (Nat.le_add_right _ _) (Nat.add_le_add_left hle _),
          Nat.add_sub_cancel_left]
      exact congrArg some hpos

/-- All lines up to one: both searches go over them together, and both give up behind the last. -/
theorem closingPosition?_eq (n : Nat) (hlast : i + n < d.lineCount)
    (hcolumn : column ≤ byteLength (d.line i)) :
    Literal.closingPosition? i column ((d.lines.drop i).take (n + 1)) =
      (loneQuote? (d.lineStart i + column)
        (d.stretch (d.lineStart i + column) (d.lineEnd (i + n)))).map d.positionAt := by
  induction n generalizing i column with
  | zero =>
      have hnone : loneQuote? (d.lineEnd i) (d.stretch (d.lineEnd i) (d.lineEnd i)) = none := by
        rw [stretch_self]
        rfl
      simp only [Nat.add_zero] at hlast ⊢
      rw [loneQuote?_step hlast hcolumn (Nat.le_refl _), hnone, drop_lines hlast]
      exact Literal.closingPosition?_cons i column (d.line i) []
  | succ n ih =>
      have hi : i < d.lineCount := by omega
      have hnext : i + 1 + n < d.lineCount := by omega
      have hstart : d.lineStart (i + 1) ≤ d.lineEnd (i + 1 + n) := by
        have hlt : d.lineStart i + byteLength (d.row i) + 1 ≤ d.lineStart (i + 1 + n) :=
          lineStart_lt (by omega) (Nat.le_of_lt hnext)
        rw [lineEnd_eq hnext, lineStart_succ hi]
        exact Nat.le_add_right_of_le hlt
      have hend : d.lineEnd i ≤ d.lineEnd (i + 1 + n) := by
        rw [lineStart_succ hi, ← lineEnd_eq hi] at hstart
        exact Nat.le_of_succ_le hstart
      rw [drop_lines hi, List.take_succ_cons, Literal.closingPosition?_cons,
        ih hnext (Nat.zero_le _), Nat.add_zero, ← loneQuote?_break (by omega) hstart,
        show i + (n + 1) = i + 1 + n by omega, loneQuote?_step hi hcolumn hend]

/-- The closing quote of a literal, looked for line by line, is the first quote without a partner
among the bytes from the start of the literal up to the end of the last line. -/
theorem closing_quote_flat (d : Document) {start : Position} {last : Nat}
    (hline : start.line ≤ last) (hlast : last < d.lineCount)
    (hcolumn : start.column ≤ byteLength (d.line start.line)) :
    let flat := loneQuote? (d.offsetAt start) (d.stretch (d.offsetAt start) (d.lineEnd last))
    d.closingQuote? start last = flat.map d.positionAt ∧
      (d.closingQuote? start last).map d.offsetAt = flat ∧
      (d.closingQuote? start last = none ↔ flat = none) := by
  have hstart : d.offsetAt start = d.lineStart start.line + start.column :=
    offsetAt_eq (by omega) (Nat.le_trans hcolumn (d.byteLength_line_le _))
  have hsame : d.closingQuote? start last =
      (loneQuote? (d.offsetAt start) (d.stretch (d.offsetAt start) (d.lineEnd last))).map
        d.positionAt := by
    have heq := d.closingPosition?_eq (last - start.line) (by omega) hcolumn
    rw [Nat.add_sub_cancel' hline] at heq
    rw [closingQuote?, Nat.succ_sub hline, heq, hstart]
  generalize hflat : loneQuote? (d.offsetAt start)
    (d.stretch (d.offsetAt start) (d.lineEnd last)) = flat at hsame
  refine ⟨hsame, ?_, ?_⟩
  · rw [hsame, Option.map_map]
    cases flat with
    | none => rfl
    | some offset =>
        have hlt := loneQuote?_lt hflat
        have hlength := d.length_stretch_le (d.offsetAt start) (d.lineEnd last)
        have hle := d.offsetAt_le_length start
        exact congrArg some (offsetAt_positionAt (by omega))
  · rw [hsame, Option.map_eq_none_iff]

/-- From inside a character, over a pair in front of `\r\n`, to a quote that begins a line. -/
theorem closing_quote_flat_return :
    let d := ofString "@\"é\"\"\r\n\"b\""
    d.closingQuote? ⟨0, 3⟩ 1 = some ⟨1, 0⟩ ∧ loneQuote? 3 (d.stretch 3 (d.lineEnd 1)) = some 8 ∧
      d.closingQuote? ⟨0, 3⟩ 0 = none := by
  intro d
  have hstart : d.offsetAt ⟨0, 3⟩ = 3 := by decide +kernel
  have hflat : loneQuote? 3 (d.stretch 3 (d.lineEnd 1)) = some 8 := by decide +kernel
  have hnone : loneQuote? 3 (d.stretch 3 (d.lineEnd 0)) = none := by decide +kernel
  have hboth := @closing_quote_flat d ⟨0, 3⟩ 1 (by decide) (by decide +kernel) (by decide +kernel)
  have hfirst := @closing_quote_flat d ⟨0, 3⟩ 0 (by decide) (by decide +kernel) (by decide +kernel)
  rw [hstart] at hboth hfirst
  refine ⟨?_, hflat, hfirst.2.2.2 hnone⟩
  rw [hboth.1, hflat]
  decide +kernel

end Document

/-! ## The literals of a region -/

/-- The pass over the lines of a region carries the open literal along.  What it finds is what the
search from the start of the literal finds. -/
theorem Literal.closingPosition?_of_mem_scan {all lines : List (List Char)} {index : Nat}
    {opened : Option (LiteralKind × Position)} {p : LiteralPlace} (hlines : all.drop index = lines)
    (hopened : ∀ o, opened = some o →
      closingPosition? o.2.line o.2.column (all.drop o.2.line) = closingPosition? index 0 lines)
    (hp : p ∈ scan opened index lines) :
    closingPosition? p.start.line p.start.column (all.drop p.start.line) = some p.stop := by
  induction lines generalizing index opened with
  | nil => cases opened <;> simp [scan] at hp
  | cons line rest ih =>
      have hrest : all.drop (index + 1) = rest := by
        rw [← List.tail_drop, hlines, List.tail_cons]
      cases opened with
      | none =>
          simp only [scan] at hp
          split at hp
          · exact ih hrest (by simp) hp
          · split at hp
            · rename_i onset _ column hcolumn
              rcases List.mem_cons.1 hp with rfl | hp
              · rw [hlines, closingPosition?_cons, hcolumn]
                rfl
              · exact ih hrest (by simp) hp
            · rename_i onset _ hnone
              -- The literal opens on this line and goes on below it.
              refine ih hrest ?_ hp
              intro o ho
              cases ho
              rw [hlines, closingPosition?_cons, hnone]
              rfl
      | some o =>
          have hopen := hopened o rfl
          rw [closingPosition?_cons] at hopen
          simp only [scan] at hp
          split at hp
          · rename_i column hcolumn
            rcases List.mem_cons.1 hp with rfl | hp
            · rw [hopen, hcolumn]
              rfl
            · exact ih hrest (by simp) hp
          · rename_i hnone
            refine ih hrest ?_ hp
            intro o' ho
            cases ho
            rw [hopen, hnone]
            rfl

theorem Document.closingQuote?_of_mem_literals {d : Document} {r : Region} {l : Literal}
    (hl : l ∈ d.literals r) :
    d.closingQuote? l.range.start (r.endLine - 1) = some l.range.stop := by
  rcases List.mem_map.1 hl with ⟨p, hp, rfl⟩
  have hlines : (d.lines.take r.endLine).drop (d.firstLine r) = d.contentLines r := by
    rw [List.drop_take, contentLines, contentCount]
  have hend : r.endLine ≠ 0 := by
    intro hzero
    rw [← hlines, hzero, List.take_zero, List.drop_nil] at hp
    cases hp
  have hclosing := Literal.closingPosition?_of_mem_scan hlines (by simp) hp
  rw [List.drop_take] at hclosing
  rwa [closingQuote?, Nat.sub_add_cancel (Nat.pos_of_ne_zero hend)]

end EmbeddedSql

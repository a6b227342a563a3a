import EmbeddedSql.Proofs.Document.Index
import EmbeddedSql.Proofs.Document.Stacking
import EmbeddedSql.Report

/-!
# Lines — the report of tokens read back

In a text report each token has a line: its class, its range and its text, with a blank after the
first two.  The text of a token is any text of the document, so it may hold blanks and line breaks
of its own.  A line can be read all the same: no class and no range has a blank in it, and line
breaks are shown as escapes.

* `Report.escape`, `Report.oneLine_eq` — line breaks as escapes, character by character;
* `Report.Entry`, `Report.Entry.line` — what a line says, and the line that says it;
* `Report.readLine?` — a reader of lines, which cuts at the first two blanks;
* `Report.readLine?_line` — the reader gets back what a line says;
* `Report.text_report_read_back` — the report of a document, line by line.
-/

namespace EmbeddedSql

/-! ## Names of classes -/

theorem Category.ofName?_name (c : Category) : ofName? c.name = some c := by
  cases c <;> decide

/-- The name of a class is made of letters. -/
theorem Category.isAlpha_of_mem_name {k : Category} {c : Char} (h : c ∈ k.name.toList) :
    c.isAlpha = true := by
  have hall : k.name.toList.all Char.isAlpha = true := by
    cases k <;> decide
  exact List.all_eq_true.1 hall c h

namespace Report

/-! ## Escapes -/

/-- A character as it is shown in a line. -/
def escape (c : Char) : List Char :=
  if c = '\r' then ['\\', 'r'] else if c = '\n' then ['\\', 'n'] else [c]

theorem oneLine_eq (t : List Char) : oneLine t = t.flatMap escape := by
  fun_induction oneLine t with
  | case1 => rfl
  | case2 cs ih => rw [ih]; rfl
  | case3 cs ih => rw [ih]; rfl
  | case4 c cs hreturn hbreak ih =>
      rw [ih, List.flatMap_cons, escape, if_neg hreturn, if_neg hbreak]
      rfl

/-- A text that stays on one line. -/
def Unbroken (t : List Char) : Prop :=
  '\r' ∉ t ∧ '\n' ∉ t

theorem Unbroken.append {s t : List Char} (hs : Unbroken s) (ht : Unbroken t) :
    Unbroken (s ++ t) := by
  simp [Unbroken, hs.1, hs.2, ht.1, ht.2]

theorem unbroken_escape (c : Char) : Unbroken (escape c) := by
  rw [escape]
  split
  · exact ⟨by decide, by decide⟩
  · split
    · exact ⟨by decide, by decide⟩
    · rename_i hreturn hbreak
      exact ⟨by simpa using Ne.symm hreturn, by simpa using Ne.symm hbreak⟩

theorem unbroken_flatMap_escape (t : List Char) : Unbroken (t.flatMap escape) := by
  induction t with
  | nil => exact ⟨List.not_mem_nil, List.not_mem_nil⟩
  | cons c t ih => exact (unbroken_escape c).append ih

/-! ## Entries -/

/-- What the line of a token says. -/
structure Entry where
  category : Category
  start : Position
  stop : Position
  text : List Char
deriving DecidableEq, Repr

/-- The entry of a token, its text without line breaks. -/
def Entry.ofToken (d : Document) (t : Token) : Entry :=
  ⟨t.category, t.range.start, t.range.stop, (d.textOf t.range).flatMap escape⟩

/-- The range of an entry as it is shown. -/
def Entry.place (e : Entry) : List Char :=
  e.start.display.toList ++ '.' :: '.' :: e.stop.display.toList

/-- The line of an entry, without a line break at its end. -/
def Entry.line (e : Entry) : List Char :=
  e.category.name.toList ++ ' ' :: (e.place ++ ' ' :: e.text)

theorem toList_tokenLine (d : Document) (t : Token) :
    (tokenLine d t).toList = (Entry.ofToken d t).line ++ ['\n'] := by
  simp [tokenLine, Range.display, Entry.line, Entry.place, Entry.ofToken, oneLine_eq]

/-! ## Reading -/

/-- A text in front of the first `sep`, and behind it. -/
def cut? (sep : Char) : List Char → Option (List Char × List Char)
  | [] => none
  | c :: cs => if c = sep then some ([], cs) else (cut? sep cs).map fun p => (c :: p.1, p.2)

theorem cut?_append {sep : Char} {front : List Char} (h : sep ∉ front) (back : List Char) :
    cut? sep (front ++ sep :: back) = some (front, back) := by
  induction front with
  | nil => simp [cut?]
  | cons c front ih =>
      rw [List.mem_cons, not_or] at h
      rw [List.cons_append, cut?, if_neg (Ne.symm h.1), ih h.2]
      rfl

/-- The number with the given decimal digits. -/
def readNat? (ds : List Char) : Option Nat :=
  if ds ≠ [] ∧ ds.all Char.isDigit then some (Nat.ofDigitChars 10 ds 0) else none

/-- `line:column` -/
def readPosition? (t : List Char) : Option Position := do
  let (line, column) ← cut? ':' t
  return ⟨← readNat? line, ← readNat? column⟩

/-- `line:column..line:column` -/
def readRange? (t : List Char) : Option (Position × Position) :=
  match cut? '.' t with
  | some (start, '.' :: stop) => do return (← readPosition? start, ← readPosition? stop)
  | _ => none

/-- The class up to the first blank, the range up to the second, and the text. -/
def readLine? (line : List Char) : Option Entry := do
  let (name, rest) ← cut? ' ' line
  let (place, text) ← cut? ' ' rest
  let category ← Category.ofName? (String.ofList name)
  let (start, stop) ← readRange? place
  return ⟨category, start, stop, text⟩

theorem isDigit_of_mem_repr {n : Nat} {c : Char} (h : c ∈ n.repr.toList) : c.isDigit = true := by
  rw [Nat.toList_repr] at h
  exact Nat.isDigit_of_mem_toDigits (by decide) (by decide) h

theorem readNat?_repr (n : Nat) : readNat? n.repr.toList = some n := by
  have hdigits : n.repr.toList.all Char.isDigit = true :=
    List.all_eq_true.2 fun _ => isDigit_of_mem_repr
  have hne : n.repr.toList ≠ [] := by
    rw [Nat.toList_repr]
    exact Nat.toDigits_ne_nil
  rw [readNat?, if_pos ⟨hne, hdigits⟩, Nat.toList_repr, Nat.ofDigitChars_ten_toDigits]

theorem toList_display (p : Position) :
    p.display.toList = p.line.repr.toList ++ ':' :: p.column.repr.toList := by
  simp [Position.display]

/-- A position is shown by digits and a colon. -/
theorem mem_display {p : Position} {c : Char} (h : c ∈ p.display.toList) :
    c.isDigit = true ∨ c = ':' := by
  rw [toList_display, List.mem_append, List.mem_cons] at h
  rcases h with h | h | h
  · exact .inl (isDigit_of_mem_repr h)
  · exact .inr h
  · exact .inl (isDigit_of_mem_repr h)

/-- A range is shown by digits, colons and dots. -/
theorem mem_place {e : Entry} {c : Char} (h : c ∈ e.place) :
    c.isDigit = true ∨ c = ':' ∨ c = '.' := by
  simp only [Entry.place, List.mem_append, List.mem_cons] at h
  rcases h with h | h | h | h
  · exact (mem_display h).imp_right .inl
  · exact .inr (.inr h)
  · exact .inr (.inr h)
  · exact (mem_display h).imp_right .inl

theorem readPosition?_display (p : Position) : readPosition? p.display.toList = some p := by
  have hcolon : ':' ∉ p.line.repr.toList := fun h => absurd (isDigit_of_mem_repr h) (by decide)
  rw [toList_display, readPosition?, cut?_append hcolon]
  simp only [Option.bind_eq_bind, Option.bind_some, readNat?_repr]
  rfl

theorem readRange?_place (e : Entry) : readRange? e.place = some (e.start, e.stop) := by
  have hdot : '.' ∉ e.start.display.toList := fun h => absurd (mem_display h) (by decide)
  rw [Entry.place, readRange?, cut?_append hdot]
  simp only [Option.bind_eq_bind, Option.bind_some, readPosition?_display]
  rfl

/-- Neither a class nor a range has a blank in it, so that both end at the first one. -/
theorem readLine?_line (e : Entry) : readLine? e.line = some e := by
  have hname : ' ' ∉ e.category.name.toList := fun h =>
    absurd (Category.isAlpha_of_mem_name h) (by decide)
  have hplace : ' ' ∉ e.place := fun h => absurd (mem_place h) (by decide)
  rw [Entry.line, readLine?, cut?_append hname]
  simp only [Option.bind_eq_bind, Option.bind_some, cut?_append hplace, String.ofList_toList,
    Category.ofName?_name, readRange?_place]
  rfl

example : readLine? "string 1:0..2:13 'a: b\\r\\n..'".toList =
    some ⟨.string, ⟨1, 0⟩, ⟨2, 13⟩, "'a: b\\r\\n..'".toList⟩ := by
  decide +kernel

theorem Entry.line_injective {e e' : Entry} (h : e.line = e'.line) : e = e' := by
  have hread := readLine?_line e
  rw [h, readLine?_line] at hread
  exact (Option.some.inj hread).symm

/-- Only the text of an entry can break its line. -/
theorem Entry.unbroken_line {e : Entry} (h : Unbroken e.text) : Unbroken e.line := by
  have hmem : ∀ {c : Char}, c ∈ e.line → c ∈ e.text ∨
      c.isAlpha = true ∨ c = ' ' ∨ c.isDigit = true ∨ c = ':' ∨ c = '.' := by
    intro c hc
    simp only [Entry.line, List.mem_append, List.mem_cons] at hc
    rcases hc with hc | hc | hc | hc | hc
    · exact .inr (.inl (Category.isAlpha_of_mem_name hc))
    · exact .inr (.inr (.inl hc))
    · exact .inr (.inr (.inr (mem_place hc)))
    · exact .inr (.inr (.inl hc))
    · exact .inl hc
  exact ⟨fun hc => (hmem hc).elim h.1 (by decide), fun hc => (hmem hc).elim h.2 (by decide)⟩

/-! ## The report -/

theorem intercalate_nothing (pieces : List (List Char)) :
    [].intercalate pieces = pieces.flatten := by
  induction pieces with
  | nil => rfl
  | cons piece rest ih =>
      cases rest with
      | nil => simp
      | cons next rest =>
          rw [List.intercalate_cons_cons, List.append_nil, ih, ← List.flatten_cons]

theorem toList_highlights (d : Document) (h : Highlights) :
    (highlights d h .text).toList =
      (h.tokens.map (Entry.ofToken d)).flatMap fun e => e.line ++ ['\n'] := by
  have hlines : (h.tokens.map (tokenLine d)).map String.toList =
      (h.tokens.map (Entry.ofToken d)).map fun e => e.line ++ ['\n'] := by
    rw [List.map_map, List.map_map]
    exact List.map_congr_left fun t _ => toList_tokenLine d t
  rw [highlights, String.toList_intercalate, hlines]
  exact intercalate_nothing _

/-- Lines that are not broken themselves are told apart by the breaks behind them. -/
theorem split_lines {entries : List Entry} (h : ∀ e ∈ entries, Unbroken e.text) :
    Text.split (· == '\n') (entries.flatMap fun e => e.line ++ ['\n']) =
      entries.map Entry.line ++ [[]] := by
  induction entries with
  | nil => rfl
  | cons e entries ih =>
      have hline : '\n' ∉ e.line := (Entry.unbroken_line (h e List.mem_cons_self)).2
      have hrest := ih fun e' he' => h e' (List.mem_cons_of_mem _ he')
      rw [List.flatMap_cons, List.append_assoc, List.singleton_append, Text.split_append_break,
        Text.split_of_not_mem hline, hrest]
      rfl

theorem return_not_mem_lines {entries : List Entry} (h : ∀ e ∈ entries, Unbroken e.text) :
    '\r' ∉ entries.flatMap fun e => e.line ++ ['\n'] := by
  rw [List.mem_flatMap]
  rintro ⟨e, he, hmem⟩
  rcases List.mem_append.1 hmem with hmem | hmem
  · exact (Entry.unbroken_line (h e he)).1 hmem
  · exact absurd hmem (by decide)

/-- The report of a document in text form has no `\r` and one line break for each token.  In front
of each line break stands a line from which the class of the token, its positions and its text can
be read, and which says nothing else. -/
theorem text_report_read_back (d : Document) :
    let tokens := d.highlights.tokens
    let out := (highlights d d.highlights .text).toList
    '\r' ∉ out ∧ out.count '\n' = tokens.length ∧
      Text.split (· == '\n') out = tokens.map (fun t => (Entry.ofToken d t).line) ++ [[]] ∧
      ∀ t ∈ tokens, readLine? (Entry.ofToken d t).line = some (Entry.ofToken d t) ∧
        ∀ e : Entry, e.line = (Entry.ofToken d t).line → e = Entry.ofToken d t := by
  intro tokens out
  have hout : out = (tokens.map (Entry.ofToken d)).flatMap fun e => e.line ++ ['\n'] :=
    toList_highlights d d.highlights
  have hunbroken : ∀ e ∈ tokens.map (Entry.ofToken d), Unbroken e.text := by
    intro e he
    rcases List.mem_map.1 he with ⟨t, _, rfl⟩
    exact unbroken_flatMap_escape _
  have hsplit := split_lines hunbroken
  rw [← hout, List.map_map] at hsplit
  refine ⟨?_, ?_, hsplit, ?_⟩
  · rw [hout]
    exact return_not_mem_lines hunbroken
  · have hlength := Text.length_split (· == '\n') out
    rw [hsplit, List.length_append, List.length_map] at hlength
    exact (Nat.succ.inj hlength).symm
  · exact fun t _ => ⟨readLine?_line _, fun _ => Entry.line_injective⟩

end Report
end EmbeddedSql

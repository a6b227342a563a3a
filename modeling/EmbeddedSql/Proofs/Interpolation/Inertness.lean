import EmbeddedSql.Proofs.Interpolation.Steps
import EmbeddedSql.Proofs.Literal.Contents

/-!
# Inertness — double quotes protect nothing in a hole

Inside a hole a quote of either kind starts a string.  The source text of a literal has its double
quotes in pairs, though, and of a pair the second quote closes what the first one has opened.  So
nothing ever stands inside double quotes, and a scan to which they are ordinary characters gives the
same runs:

* `Interpolation.State.read_quotes` — of two double quotes nothing is left;
* `Interpolation.scan_double` — scans that differ in double quotes only agree on a doubled text,
  from every state that is not inside double quotes;
* `Document.double_quotes_inert` — the runs of a literal, and what a `}` in one of its holes does.
-/

namespace EmbeddedSql

open Text

theorem Literal.head?_double (s : List Char) : (double s).head? = s.head? := by
  cases s with
  | nil => rfl
  | cons c s =>
      by_cases hc : c = '"'
      · subst hc
        rfl
      · rw [double_char hc]
        rfl

/-- A character that is no quote separates two doubled texts. -/
theorem Literal.double_eq_append {c : Char} (hc : c ≠ '"') {s x z : List Char}
    (h : double s = x ++ c :: z) : ∃ a b, x = double a ∧ z = double b := by
  rcases exists_double_append h (.inr (by simpa using hc)) with ⟨a, b, rfl, hb⟩
  cases b with
  | nil => cases hb
  | cons e b =>
      by_cases he : e = '"'
      · rw [he, double_quote] at hb
        exact absurd (List.cons.inj hb).1 hc
      · rw [double_char he] at hb
        exact ⟨a, b, rfl, (List.cons.inj hb).2⟩

namespace Interpolation

open Literal

/-- The quotes that open a string if double quotes are ordinary characters. -/
def isApostrophe (c : Char) : Bool :=
  c == '\''

/-! ## Texts with doubled quotes -/

variable {opens opens' : Char → Bool} {state : State} {offset : Nat} {c : Char} {cs : List Char}

/-- The state behind characters that mean nothing where they stand. -/
def State.unescaped : State → State
  | .escaped inner quote => .quoted inner quote
  | state => state

theorem State.quote?_unescaped (state : State) : state.unescaped.quote? = state.quote? := by
  cases state <;> rfl

theorem State.read_quotes (h : state.quote? ≠ some '"') (m n : Nat) :
    (state.read opens m '"').read opens n '"' = state.unescaped := by
  cases state with
  | run start => rfl
  | hole inner =>
      -- An empty string, or two ordinary characters.
      by_cases hopens : opens '"' = true <;> simp [read, unescaped, hopens]
  | quoted inner quote =>
      have hquote : '"' ≠ quote := fun heq => h (congrArg some heq.symm)
      simp [read, unescaped, hquote]
  | escaped inner quote =>
      have hquote : '"' ≠ quote := fun heq => h (congrArg some heq.symm)
      simp [read, unescaped, hquote]

theorem State.read_congr (hsame : opens c = opens' c) (state : State) (n : Nat) :
    state.read opens n c = state.read opens' n c := by
  cases state <;> simp [read, hsame]

theorem scan_quotes (h : state.quote? ≠ some '"') :
    scan opens state offset ('"' :: '"' :: cs) = scan opens state.unescaped (offset + 2) cs := by
  have halone : ∀ (state : State) (cs : List Char), ¬ state.Pairs '"' cs := by
    rintro state cs ⟨-, hbrace, -⟩
    revert hbrace
    decide
  have hended : ∀ (state : State) (offset : Nat), state.ended offset '"' = [] := by
    intro state offset
    cases state <;> rfl
  rw [scan_cons (halone _ _), scan_cons (halone _ _), hended, hended, State.read_quotes h]
  rfl

theorem scan_double (hsame : ∀ c, c ≠ '"' → opens c = opens' c) (s : List Char) (state : State)
    (offset : Nat) (hstate : state.quote? ≠ some '"') :
    scan opens state offset (double s) = scan opens' state offset (double s) := by
  -- By recursion on `s`; in a run it goes over two braces at once.
  match s with
  | [] => cases state <;> simp [scan]
  | c :: s =>
      by_cases hc : c = '"'
      · subst hc
        rw [double_quote, scan_quotes hstate, scan_quotes hstate]
        exact scan_double hsame s _ _ (state.quote?_unescaped ▸ hstate)
      · rw [double_char hc]
        by_cases hpair : state.Pairs c (double s)
        · rcases List.head?_eq_some_iff.1 (head?_double s ▸ hpair.2.2) with ⟨s', rfl⟩
          rw [double_char hc] at hpair ⊢
          rw [scan_pairs hpair, scan_pairs hpair]
          exact scan_double hsame s' _ _ hstate
        · have hnext : ∀ n, (state.read opens' n c).quote? ≠ some '"' := by
            intro n hquote
            rcases State.quote?_read hquote with hold | ⟨-, rfl⟩
            · exact hstate hold
            · exact hc rfl
          rw [scan_cons hpair, scan_cons hpair, State.read_congr (hsame c hc),
            scan_double hsame s _ _ (hnext _)]
termination_by s.length

end Interpolation

namespace Document

open Interpolation

/-- The runs of a literal are those of a scan in which only apostrophes open strings.  So a `}` that
stands, for that scan, in a hole and outside of strings does close a brace, also between pairs of
double quotes. -/
theorem double_quotes_inert {d : Document} {r : Region} {l : Literal} (h : l ∈ d.literals r) :
    runs (l.raw d) = scan isApostrophe (.run 0) 0 (l.raw d) ∧
    ∀ x z inner, l.raw d = x ++ '}' :: z → after isApostrophe (.run 0) 0 x = .hole inner →
      runs (l.raw d) =
        runs x ++ scan isQuote (.closed (byteLength x + 1) inner) (byteLength x + 1) z := by
  have hsame : ∀ c, c ≠ '"' → isQuote c = isApostrophe c := by
    intro c hc
    simp [isQuote, isApostrophe, hc]
  have hruns : ∀ s, runs (Literal.double s) = scan isApostrophe (.run 0) 0 (Literal.double s) :=
    fun s => scan_double hsame s (.run 0) 0 (by simp [State.quote?])
  have hraw := double_value h
  refine ⟨hraw ▸ hruns (l.value d), ?_⟩
  intro x z inner heq hx
  -- The brace separates two doubled texts, and the scans agree on each.
  rcases Literal.double_eq_append (by decide) (hraw.trans heq) with ⟨a, b, rfl, rfl⟩
  rw [← hraw, hruns, hraw, heq, scan_append_brace (by decide) hx, ← hruns, Nat.zero_add,
    scan_double hsame b _ _ (by simp [State.quote?_closed])]

/-- A brace between pairs of double quotes closes the hole, and the rest is text. -/
theorem double_quotes_inert_brace :
    let d := ofString "//sql begin\n$@\"a \x7bf(\"\"\x7d\"\")\x7d b\"\n//sql end"
    let l : Literal := ⟨⟨⟨15, 29⟩, ⟨1, 3⟩, ⟨1, 17⟩⟩, .interpolated⟩
    l ∈ d.literals ⟨0, 2⟩ ∧ after isApostrophe (.run 0) 0 "a \x7bf(\"\"".toList = .hole 0 ∧
      runs (l.raw d) = scan isApostrophe (.run 0) 0 (l.raw d) ∧
      runs (l.raw d) = [⟨0, 2⟩, ⟨8, 14⟩] := by
  intro d l
  have hl : l ∈ d.literals ⟨0, 2⟩ := by decide +kernel
  have hhole : after isApostrophe (.run 0) 0 "a \x7bf(\"\"".toList = .hole 0 := by decide
  rcases double_quotes_inert hl with ⟨hsame, hbrace⟩
  refine ⟨hl, hhole, hsame, ?_⟩
  rw [hbrace "a \x7bf(\"\"".toList "\"\")\x7d b".toList 0 (by decide +kernel) hhole]
  decide

end Document
end EmbeddedSql

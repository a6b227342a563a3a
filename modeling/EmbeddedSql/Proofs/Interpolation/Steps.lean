import EmbeddedSql.Proofs.Interpolation.Grammar

/-!
# Steps — the scan for holes, one character at a time

The scan reads one character after the other, except that in a run it reads two braces at once.
What a character does depends on the state alone, so a scan can be taken up again behind the
beginning of a text:

* `Interpolation.State.read`, `Interpolation.State.ended` — what a character does;
* `Interpolation.State.Pairs`, `Interpolation.scan_pairs` — the braces that are read at once;
* `Interpolation.scan_cons` — every other step of the scan;
* `Interpolation.after`, `Interpolation.scan_append` — where a scan stands behind a text, and how it
  goes on from there.
-/

namespace EmbeddedSql
namespace Interpolation

open Text

/-! ## One character -/

/-- The state behind a brace that closes, in a hole with `inner` nested braces open. -/
def State.closed (offset : Nat) : (inner : Nat) → State
  | 0 => .run offset
  | outer + 1 => .hole outer

theorem State.quote?_closed (offset inner : Nat) : (closed offset inner).quote? = none := by
  cases inner <;> rfl

/-- The state behind a character, which ends at `offset`. -/
def State.read (opens : Char → Bool) (offset : Nat) (c : Char) : State → State
  | .run start => if c = '{' then .hole 0 else .run start
  | .hole inner =>
    if opens c then .quoted inner c
    else if c = '{' then .hole (inner + 1)
    else if c = '}' then .closed offset inner
    else .hole inner
  | .quoted inner quote =>
    if c = '\\' then .escaped inner quote
    else if c = quote then .hole inner
    else .quoted inner quote
  | .escaped inner quote => .quoted inner quote

/-- The run that a character ends. -/
def State.ended (offset : Nat) (c : Char) : State → List Span
  | .run start => if c = '{' then emit start offset else []
  | _ => []

/-- In a run, a brace that stands twice is read at once. -/
def State.Pairs (c : Char) (cs : List Char) (state : State) : Prop :=
  (∃ start, state = .run start) ∧ (c = '{' ∨ c = '}') ∧ cs.head? = some c

variable {opens : Char → Bool} {state : State} {offset : Nat} {c : Char} {cs : List Char}

theorem State.not_pairs
    (hopen : ∀ start rest, state = .run start → c = '{' → cs = '{' :: rest → False)
    (hclose : ∀ start rest, state = .run start → c = '}' → cs = '}' :: rest → False) :
    ¬ state.Pairs c cs := by
  rintro ⟨⟨start, rfl⟩, rfl | rfl, hhead⟩
  · rcases List.head?_eq_some_iff.1 hhead with ⟨rest, rfl⟩
    exact hopen start rest rfl rfl rfl
  · rcases List.head?_eq_some_iff.1 hhead with ⟨rest, rfl⟩
    exact hclose start rest rfl rfl rfl

/-- The scan stands in a string that it was in before, or in one that the character opened. -/
theorem State.quote?_read {q : Char} {n : Nat} (h : (state.read opens n c).quote? = some q) :
    state.quote? = some q ∨ opens c = true ∧ c = q := by
  cases state with
  | run start => by_cases hopen : c = '{' <;> simp [read, hopen, quote?] at h
  | hole inner =>
      simp only [read] at h
      split at h
      · rename_i hopens
        exact .inr ⟨hopens, Option.some.inj h⟩
      · split at h
        · cases h
        · split at h
          · rw [quote?_closed] at h
            cases h
          · cases h
  | quoted inner quote =>
      simp only [read] at h
      split at h
      · exact .inl h
      · split at h
        · cases h
        · exact .inl h
  | escaped inner quote => exact .inl h

theorem scan_pairs (h : state.Pairs c (c :: cs)) :
    scan opens state offset (c :: c :: cs) = scan opens state (offset + 2) cs := by
  rcases h with ⟨⟨start, rfl⟩, rfl | rfl, -⟩ <;> rw [scan]

theorem scan_cons (h : ¬ state.Pairs c cs) :
    scan opens state offset (c :: cs) =
      state.ended offset c ++
        scan opens (state.read opens (offset + c.utf8Size) c) (offset + c.utf8Size) cs := by
  cases state with
  | run start =>
      have halone : c = '{' ∨ c = '}' → cs.head? ≠ some c :=
        fun hbrace hhead => h ⟨⟨start, rfl⟩, hbrace, hhead⟩
      by_cases hopen : c = '{'
      · subst hopen
        exact scan_run_opening (halone (.inl rfl))
      · by_cases hclose : c = '}'
        · subst hclose
          exact scan_run_closing (halone (.inr rfl))
        · rw [scan_run_char hopen hclose]
          simp [State.ended, State.read, hopen]
  | hole inner =>
      by_cases hquote : opens c = true
      · cases inner <;> simp [scan, State.ended, State.read, hquote]
      · by_cases hopen : c = '{'
        · subst hopen
          have hone : '{'.utf8Size = 1 := rfl
          cases inner <;> simp [scan, State.ended, State.read, hquote, hone]
        · by_cases hclose : c = '}'
          · subst hclose
            have hone : '}'.utf8Size = 1 := rfl
            cases inner <;> simp [scan, State.ended, State.read, State.closed, hquote, hone]
          · cases inner <;> simp [scan, State.ended, State.read, hquote, hopen, hclose]
  | quoted inner quote =>
      by_cases hslash : c = '\\'
      · subst hslash
        have hone : '\\'.utf8Size = 1 := rfl
        simp [scan, State.ended, State.read, hone]
      · by_cases hquote : c = quote
        · subst hquote
          simp [scan, State.ended, State.read, hslash]
        · simp [scan, State.ended, State.read, hslash, hquote]
  | escaped inner quote => simp [scan, State.ended, State.read]

/-! ## Going on behind the beginning of a text -/

/-- Where a scan stands behind a text. -/
def after (opens : Char → Bool) : State → (offset : Nat) → List Char → State
  | state, _, [] => state
  | .run start, offset, '{' :: '{' :: cs => after opens (.run start) (offset + 2) cs
  | .run start, offset, '}' :: '}' :: cs => after opens (.run start) (offset + 2) cs
  | state, offset, c :: cs =>
    after opens (state.read opens (offset + c.utf8Size) c) (offset + c.utf8Size) cs

theorem scan_append {inner : Nat} {x y : List Char}
    (hx : after opens state offset x = .hole inner) (hy : y.head? ≠ some '{') :
    scan opens state offset (x ++ y) =
      scan opens state offset x ++ scan opens (.hole inner) (offset + byteLength x) y := by
  fun_induction after opens state offset x with
  | case1 =>
      subst hx
      simp [scan]
  | case2 start offset cs ih =>
      have hone : '{'.utf8Size = 1 := rfl
      simp only [List.cons_append, scan, ih hx, byteLength_cons, hone]
      congr 2
      omega
  | case3 start offset cs ih =>
      have hone : '}'.utf8Size = 1 := rfl
      simp only [List.cons_append, scan, ih hx, byteLength_cons, hone]
      congr 2
      omega
  | case4 state offset c cs hopen hclose ih =>
      have halone : ¬ state.Pairs c cs := State.not_pairs hopen hclose
      -- With what follows it is no pair either: a `}` at the end of the text would leave a run.
      have halone' : ¬ state.Pairs c (cs ++ y) := by
        rintro ⟨⟨start, rfl⟩, hbrace, hhead⟩
        cases cs with
        | nil =>
            rcases hbrace with rfl | rfl
            · exact hy hhead
            · cases hx
        | cons d ds => exact halone ⟨⟨start, rfl⟩, hbrace, hhead⟩
      rw [List.cons_append, scan_cons halone', scan_cons halone, ih hx, List.append_assoc,
        byteLength_cons, Nat.add_assoc]

/-- A `}` counts as a brace where the scan stands in a hole. -/
theorem scan_append_brace (hopens : opens '}' = false) {inner : Nat} {x z : List Char}
    (hx : after opens state offset x = .hole inner) :
    scan opens state offset (x ++ '}' :: z) =
      scan opens state offset x ++
        scan opens (.closed (offset + byteLength x + 1) inner) (offset + byteLength x + 1) z := by
  have halone : ¬ (State.hole inner).Pairs '}' z := by
    rintro ⟨⟨start, hrun⟩, -⟩
    cases hrun
  have hone : '}'.utf8Size = 1 := rfl
  rw [scan_append hx (by simp), scan_cons halone, hone]
  simp [State.ended, State.read, hopens]

end Interpolation
end EmbeddedSql

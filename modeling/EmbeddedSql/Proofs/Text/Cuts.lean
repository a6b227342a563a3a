import EmbeddedSql.Text.Units

/-!
# Cuts — where bytes, characters and UTF-16 units meet

Offsets count bytes, but a text is a list of characters.  This file relates the two measures:

* `Text.IsBoundary t n` — the first `n` bytes of `t` are whole characters;
* `Text.IsBoundary.le_or_le` — a boundary is never inside a character;
* `Text.exists_append_of_byteLength_le` — beginnings of a text are ordered by their bytes;
* `Text.IsBoundary.between` — what stands between two boundaries is a part of the text;
* `Text.exists_unit` — every UTF-16 unit belongs to a character;
* `Text.unitLength_takeBytes_le_iff` — which byte columns lead to units in front of a character;
* `Text.append_inj_of_byteLength` — a text is cut in one way behind a number of bytes;
* `Text.slice?_append` — an exact cut between two boundaries is what stands between them;
* `Text.eq_append_of_slice?` — what an exact cut gives stands where it begins;
* `Text.byteLength_slice?` — an exact cut has as many bytes as were asked for.
-/

namespace EmbeddedSql
namespace Text

/-! ## Widths -/

theorem unitWidth_le_utf8Size (c : Char) : unitWidth c ≤ c.utf8Size := by
  have hpos : 0 < c.utf8Size := c.utf8Size_pos
  unfold unitWidth
  split
  · omega
  · -- Two units are needed from the code point on from which four bytes are.
    rename_i hwide
    have hval : ¬ c.val ≤ 0xffff := by
      intro hle
      have hnat : c.val.toNat ≤ 0xffff := UInt32.le_iff_toNat_le.1 hle
      exact hwide (Nat.lt_succ_of_le hnat)
    have h2 : ¬ c.val ≤ 0x7ff := fun h => hval (UInt32.le_trans h (by decide))
    have h1 : ¬ c.val ≤ 0x7f := fun h => hval (UInt32.le_trans h (by decide))
    simp [Char.utf8Size, h1, h2, hval]

theorem unitLength_le_byteLength (t : List Char) : unitLength t ≤ byteLength t := by
  induction t with
  | nil => simp
  | cons c cs ih =>
      have hc : unitWidth c ≤ c.utf8Size := unitWidth_le_utf8Size c
      simp only [unitLength_cons, byteLength_cons]
      omega

theorem byteLength_eq_zero_iff {t : List Char} : byteLength t = 0 ↔ t = [] := by
  cases t with
  | nil => simp
  | cons c cs =>
      have hpos : 0 < c.utf8Size := c.utf8Size_pos
      simp only [byteLength_cons, reduceCtorEq, iff_false]
      omega

/-! ## Boundaries -/

/-- The first `n` bytes of a text are whole characters. -/
def IsBoundary (t : List Char) (n : Nat) : Prop :=
  ∃ s r, t = s ++ r ∧ byteLength s = n

/-- A boundary lies in front of a character or behind it. -/
theorem IsBoundary.le_or_le {a b : List Char} {c : Char} {n : Nat}
    (h : IsBoundary (a ++ c :: b) n) :
    n ≤ byteLength a ∨ byteLength a + c.utf8Size ≤ n := by
  rcases h with ⟨s, r, heq, rfl⟩
  rcases List.append_eq_append_iff.1 heq with ⟨x, hs, hcb⟩ | ⟨x, ha, _⟩
  · -- What is cut off reaches beyond `a`: by nothing, or by all of `c` at least.
    cases x with
    | nil =>
        left
        simp [hs]
    | cons d ds =>
        right
        have hd : c = d := (List.cons.inj hcb).1
        simp only [hs, hd, byteLength_append, byteLength_cons]
        omega
  · left
    simp [ha]

theorem IsBoundary.prepend {t : List Char} {n : Nat} (h : IsBoundary t n) (a : List Char) :
    IsBoundary (a ++ t) (byteLength a + n) := by
  rcases h with ⟨s, r, rfl, rfl⟩
  exact ⟨a ++ s, r, by simp, byteLength_append a s⟩

theorem IsBoundary.append {t : List Char} {n : Nat} (h : IsBoundary t n) (b : List Char) :
    IsBoundary (t ++ b) n := by
  rcases h with ⟨s, r, rfl, rfl⟩
  exact ⟨s, r ++ b, by simp, rfl⟩

/-- Of two beginnings of a text the one with more bytes begins with the other one. -/
theorem exists_append_of_byteLength_le {a x b y : List Char} (h : a ++ x = b ++ y)
    (hle : byteLength a ≤ byteLength b) : ∃ z, b = a ++ z ∧ x = z ++ y := by
  rcases List.append_eq_append_iff.1 h with hz | ⟨z, ha, hy⟩
  · exact hz
  · -- The first one is not shorter, so both are the same.
    have hz : byteLength z = 0 := by
      rw [ha, byteLength_append] at hle
      omega
    have hnil : z = [] := byteLength_eq_zero_iff.1 hz
    exact ⟨[], by simp [ha, hnil], by simp [hy, hnil]⟩

/-- There is one way only to cut a text behind a number of bytes. -/
theorem append_inj_of_byteLength {a b a' b' : List Char} (h : a ++ b = a' ++ b')
    (hlen : byteLength a = byteLength a') : a = a' ∧ b = b' := by
  rcases exists_append_of_byteLength_le h (Nat.le_of_eq hlen) with ⟨z, ha', hb⟩
  have hz : byteLength z = 0 := by
    rw [ha', byteLength_append] at hlen
    omega
  have hnil : z = [] := byteLength_eq_zero_iff.1 hz
  exact ⟨by simp [ha', hnil], by simp [hb, hnil]⟩

theorem IsBoundary.between {t : List Char} {m n : Nat} (hm : IsBoundary t m)
    (hn : IsBoundary t n) (hle : m ≤ n) :
    ∃ a b c, t = a ++ (b ++ c) ∧ byteLength a = m ∧ byteLength a + byteLength b = n := by
  rcases hm with ⟨s, r, rfl, rfl⟩
  rcases hn with ⟨s', r', heq, rfl⟩
  rcases exists_append_of_byteLength_le heq hle with ⟨x, rfl, rfl⟩
  exact ⟨s, x, r', rfl, rfl, (byteLength_append s x).symm⟩

/-! ## Unit columns of byte columns -/

theorem takeBytes_append (a b : List Char) : takeBytes (byteLength a) (a ++ b) = a := by
  induction a with
  | nil =>
      cases b with
      | nil => rfl
      | cons c cs =>
          have hpos : 0 < c.utf8Size := c.utf8Size_pos
          rw [List.nil_append, takeBytes, if_neg (by simp; omega)]
  | cons c cs ih =>
      have hrest : byteLength (c :: cs) - c.utf8Size = byteLength cs := by
        rw [byteLength_cons, Nat.add_sub_cancel_left]
      rw [List.cons_append, takeBytes, if_pos (by simp), hrest, ih]

theorem unitLength_takeBytes_le (n : Nat) (t : List Char) :
    unitLength (takeBytes n t) ≤ unitLength t := by
  induction t generalizing n with
  | nil => simp [takeBytes]
  | cons c cs ih =>
      simp only [takeBytes]
      split
      · simpa using ih (n - c.utf8Size)
      · simp

theorem unitLength_takeBytes_mono {m n : Nat} (h : m ≤ n) (t : List Char) :
    unitLength (takeBytes m t) ≤ unitLength (takeBytes n t) := by
  induction t generalizing m n with
  | nil => simp [takeBytes]
  | cons c cs ih =>
      simp only [takeBytes]
      by_cases hm : c.utf8Size ≤ m
      · have hn : c.utf8Size ≤ n := Nat.le_trans hm h
        have hsub : m - c.utf8Size ≤ n - c.utf8Size := Nat.sub_le_sub_right h _
        simpa [hm, hn] using ih hsub
      · simp [hm]

/-- Every unit of a text belongs to one of its characters. -/
theorem exists_unit {t : List Char} {u : Nat} (h : u < unitLength t) :
    ∃ pre c post, t = pre ++ c :: post ∧ unitLength pre ≤ u ∧
      u < unitLength pre + unitWidth c := by
  induction t generalizing u with
  | nil => simp at h
  | cons c cs ih =>
      by_cases hfirst : u < unitWidth c
      · exact ⟨[], c, cs, rfl, Nat.zero_le _, by simpa using hfirst⟩
      · have hlater : u - unitWidth c < unitLength cs := by
          rw [unitLength_cons] at h
          omega
        rcases ih hlater with ⟨pre, c', post, rfl, hlow, hhigh⟩
        refine ⟨c :: pre, c', post, rfl, ?_, ?_⟩
        · rw [unitLength_cons]
          omega
        · rw [unitLength_cons]
          omega

/-- Take a character of a text and one of its units `u`.  A byte column leads to a unit column at
or in front of `u` exactly when it lies in front of the last byte of the character. -/
theorem unitLength_takeBytes_le_iff {pre post : List Char} {c : Char} {n u : Nat}
    (hlow : unitLength pre ≤ u) (hhigh : u < unitLength pre + unitWidth c) :
    unitLength (takeBytes n (pre ++ c :: post)) ≤ u ↔ n < byteLength pre + c.utf8Size := by
  induction pre generalizing n u with
  | nil =>
      simp only [unitLength_nil, Nat.zero_add] at hhigh
      by_cases hn : c.utf8Size ≤ n
      · simp only [List.nil_append, takeBytes, hn, if_true, unitLength_cons, byteLength_nil]
        omega
      · simp only [List.nil_append, takeBytes, hn, if_false, unitLength_nil, byteLength_nil]
        omega
  | cons d ds ih =>
      -- A column inside `d` leads to the unit at which the text starts, so the case that matters
      -- is the one behind `d`.
      simp only [unitLength_cons] at hlow hhigh
      have hstep := @ih (n - d.utf8Size) (u - unitWidth d) (by omega) (by omega)
      by_cases hn : d.utf8Size ≤ n
      · simp only [List.cons_append, takeBytes, hn, if_true, unitLength_cons, byteLength_cons]
        omega
      · simp only [List.cons_append, takeBytes, hn, if_false, unitLength_nil, byteLength_cons]
        omega

/-! ## Exact cuts -/

/-- Both cuts look at the number of bytes first and take a whole character off it. -/
theorem exists_byteLength_cons (c : Char) (cs : List Char) :
    ∃ k, byteLength (c :: cs) = k + 1 ∧ c.utf8Size ≤ k + 1 ∧
      k + 1 - c.utf8Size = byteLength cs := by
  have hpos : 0 < c.utf8Size := c.utf8Size_pos
  refine ⟨byteLength (c :: cs) - 1, ?_⟩
  rw [byteLength_cons]
  omega

theorem dropBytes?_append (a b : List Char) : dropBytes? (byteLength a) (a ++ b) = some b := by
  induction a with
  | nil => cases b <;> rfl
  | cons c cs ih =>
      rcases exists_byteLength_cons c cs with ⟨k, hk, hfits, hrest⟩
      rw [hk, List.cons_append, dropBytes?, if_pos hfits, hrest, ih]

theorem takeBytes?_append (a b : List Char) : takeBytes? (byteLength a) (a ++ b) = some a := by
  induction a with
  | nil => cases b <;> rfl
  | cons c cs ih =>
      rcases exists_byteLength_cons c cs with ⟨k, hk, hfits, hrest⟩
      rw [hk, List.cons_append, takeBytes?, if_pos hfits, hrest, ih]
      rfl

theorem slice?_append (a b c : List Char) :
    slice? (byteLength a) (byteLength a + byteLength b) (a ++ (b ++ c)) = some b := by
  have hlen : byteLength a + byteLength b - byteLength a = byteLength b := by omega
  rw [slice?, dropBytes?_append, hlen]
  exact takeBytes?_append b c

theorem byteLength_takeBytes? {n : Nat} {t s : List Char} (h : takeBytes? n t = some s) :
    byteLength s = n := by
  induction t generalizing n s with
  | nil =>
      cases n with
      | zero => simp_all [takeBytes?]
      | succ n => simp [takeBytes?] at h
  | cons c cs ih =>
      cases n with
      | zero => simp_all [takeBytes?]
      | succ n =>
          simp only [takeBytes?] at h
          split at h
          · rcases Option.map_eq_some_iff.1 h with ⟨r, hr, rfl⟩
            have hlen : byteLength r = n + 1 - c.utf8Size := ih hr
            simp only [byteLength_cons]
            omega
          · cases h

theorem eq_append_of_takeBytes? {n : Nat} {t s : List Char} (h : takeBytes? n t = some s) :
    ∃ r, t = s ++ r := by
  fun_induction takeBytes? n t generalizing s with
  | case1 t =>
      cases h
      exact ⟨t, rfl⟩
  | case2 => cases h
  | case3 n c cs hfits ih =>
      rcases Option.map_eq_some_iff.1 h with ⟨r, hr, rfl⟩
      rcases ih hr with ⟨rest, hrest⟩
      exact ⟨rest, by rw [hrest, List.cons_append]⟩
  | case4 => cases h

theorem eq_append_of_slice? {stop : Nat} {a t s : List Char}
    (h : slice? (byteLength a) stop (a ++ t) = some s) : ∃ r, t = s ++ r := by
  rw [slice?, dropBytes?_append] at h
  exact eq_append_of_takeBytes? h

theorem byteLength_slice? {start stop : Nat} {t s : List Char}
    (h : slice? start stop t = some s) : byteLength s = stop - start := by
  rcases Option.bind_eq_some_iff.1 h with ⟨r, _, hr⟩
  exact byteLength_takeBytes? hr

end Text
end EmbeddedSql

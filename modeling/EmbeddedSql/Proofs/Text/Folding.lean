import EmbeddedSql.Text.Blank
import EmbeddedSql.Text.Units

/-!
# Folding — texts without the case of their letters

Two texts that differ in the case of ASCII letters only become the same text when every capital is
made small.  Folding a text keeps the bytes of each character, and it keeps every character that is
not a letter, so it commutes with all that looks at nothing else:

* `Text.foldCase` — every ASCII letter in lower case;
* `Text.rel_toLower` — what holds between each capital and its small letter, and between each
  character and itself, holds between a character and its folded form; `Text.rel_toUpper` — the same
  the other way round;
* `Text.eq_append_of_foldCase` — signs that are no letters are where they were;
* `Text.split_foldCase`, `Text.trim_foldCase`, `Text.words_foldCase` — pieces and words;
* `Text.byteLength_foldCase`, `Text.slice?_foldCase` — bytes and cuts.
-/

namespace EmbeddedSql
namespace Text

/-- Every ASCII letter in lower case, and all else as it is. -/
def foldCase (t : List Char) : List Char :=
  t.map Char.toLower

@[simp] theorem foldCase_nil : foldCase [] = [] := rfl

@[simp] theorem foldCase_cons (c : Char) (t : List Char) :
    foldCase (c :: t) = c.toLower :: foldCase t := rfl

/-! ## One character -/

/-- What holds of 26 characters in a row holds of every character among them. -/
theorem of_letter {P : Char → Prop} {first : Nat} (h : ∀ n : Fin 26, P (Char.ofNat (first + n)))
    {c : Char} (hlow : first ≤ c.toNat) (hhigh : c.toNat ≤ first + 25) : P c := by
  have hc : Char.ofNat (first + (c.toNat - first)) = c := by
    rw [Nat.add_sub_cancel' hlow, Char.ofNat_toNat]
  have hP := h ⟨c.toNat - first, by omega⟩
  simp only [hc] at hP
  exact hP

theorem rel_toLower {r : Char → Char → Prop} (hsame : ∀ c, r c c)
    (hcapital : ∀ n : Fin 26, r (Char.ofNat (65 + n)) (Char.ofNat (65 + n)).toLower) (c : Char) :
    r c c.toLower := by
  by_cases hrange : c.val ≥ 'A'.val ∧ c.val ≤ 'Z'.val
  · -- One of the 26 capitals.
    exact of_letter (P := fun c => r c c.toLower) hcapital hrange.1 hrange.2
  · have hfixed : c.toLower = c := dif_neg hrange
    rw [hfixed]
    exact hsame c

theorem rel_toUpper {r : Char → Char → Prop} (hsame : ∀ c, r c c)
    (hsmall : ∀ n : Fin 26, r (Char.ofNat (97 + n)) (Char.ofNat (97 + n)).toUpper) (c : Char) :
    r c c.toUpper := by
  by_cases hrange : c.val ≥ 'a'.val ∧ c.val ≤ 'z'.val
  · exact of_letter (P := fun c => r c c.toUpper) hsmall hrange.1 hrange.2
  · have hfixed : c.toUpper = c := dif_neg hrange
    rw [hfixed]
    exact hsame c

@[simp] theorem utf8Size_toLower (c : Char) : c.toLower.utf8Size = c.utf8Size :=
  rel_toLower (r := fun c l => l.utf8Size = c.utf8Size) (fun _ => rfl) (by decide) c

@[simp] theorem isBlank_toLower (c : Char) : isBlank c.toLower = isBlank c :=
  rel_toLower (r := fun c l => isBlank l = isBlank c) (fun _ => rfl) (by decide) c

@[simp] theorem isDigit_toLower (c : Char) : c.toLower.isDigit = c.isDigit :=
  rel_toLower (r := fun c l => l.isDigit = c.isDigit) (fun _ => rfl) (by decide) c

@[simp] theorem toUpper_toLower (c : Char) : c.toLower.toUpper = c.toUpper :=
  rel_toLower (r := fun c l => l.toUpper = c.toUpper) (fun _ => rfl) (by decide) c

theorem toLower_eq_iff {k : Char} (hk : k.isAlpha = false) {c : Char} : c.toLower = k ↔ c = k := by
  refine rel_toLower (r := fun c l => l = k ↔ c = k) (fun _ => Iff.rfl) ?_ c
  intro n
  -- A capital and its small letter are letters, so neither is `k`.
  have hletters : (Char.ofNat (65 + n)).isAlpha = true ∧
      (Char.ofNat (65 + n)).toLower.isAlpha = true := by
    revert n
    decide
  constructor
  · rintro rfl
    rw [hletters.2] at hk
    cases hk
  · rintro rfl
    rw [hletters.1] at hk
    cases hk

theorem toLower_ne {k : Char} (hk : k.isAlpha = false) {c : Char} (h : c ≠ k) : c.toLower ≠ k :=
  mt (toLower_eq_iff hk).1 h

theorem toLower_beq {k : Char} (hk : k.isAlpha = false) (c : Char) :
    (c.toLower == k) = (c == k) := by
  rw [Bool.eq_iff_iff, beq_iff_eq, beq_iff_eq]
  exact toLower_eq_iff hk

/-! ## Signs in front of a text -/

theorem eq_append_of_foldCase {p t u : List Char} (hp : p.any Char.isAlpha = false)
    (h : foldCase t = p ++ u) : ∃ v, t = p ++ v ∧ foldCase v = u := by
  induction p generalizing t with
  | nil => exact ⟨t, rfl, h⟩
  | cons k rest ih =>
      cases t with
      | nil => cases h
      | cons c cs =>
          rcases List.cons.inj h with ⟨hc, hcs⟩
          rw [List.any_cons, Bool.or_eq_false_iff] at hp
          have hk : c = k := (toLower_eq_iff hp.1).1 hc
          rcases ih hp.2 hcs with ⟨v, rfl, hv⟩
          exact ⟨v, by rw [hk, List.cons_append], hv⟩

/-- A text that does not begin with certain signs does not begin with them when it is folded. -/
theorem foldCase_ne_append {p t : List Char} (hp : p.any Char.isAlpha = false)
    (h : ∀ v, t ≠ p ++ v) (u : List Char) : foldCase t ≠ p ++ u := by
  intro heq
  rcases eq_append_of_foldCase hp heq with ⟨v, hv, -⟩
  exact h v hv

theorem head?_foldCase_ne {k : Char} (hk : k.isAlpha = false) {t : List Char}
    (h : t.head? ≠ some k) : (foldCase t).head? ≠ some k := by
  cases t with
  | nil => exact h
  | cons c cs =>
      have hc : c ≠ k := by simpa using h
      simpa using toLower_ne hk hc

/-! ## Pieces and words -/

theorem split_foldCase {p : Char → Bool} (hp : ∀ c, p c.toLower = p c) (t : List Char) :
    split p (foldCase t) = (split p t).map foldCase := by
  induction t with
  | nil => rfl
  | cons c cs ih =>
      rcases List.exists_cons_of_ne_nil (split_ne_nil p cs) with ⟨piece, rest, hs⟩
      rw [hs] at ih
      by_cases hc : p c = true
      · simp [split, hp, hc, ih, hs]
      · simp [split, hp, hc, ih, hs]

theorem trimStart_foldCase (t : List Char) : trimStart (foldCase t) = foldCase (trimStart t) := by
  have hblank : isBlank ∘ Char.toLower = isBlank := funext isBlank_toLower
  rw [trimStart, foldCase, List.dropWhile_map, hblank]
  rfl

theorem trim_foldCase (t : List Char) : trim (foldCase t) = foldCase (trim t) := by
  have hreverse : ∀ u, (foldCase u).reverse = foldCase u.reverse := by
    intro u
    exact List.map_reverse.symm
  calc
    trim (foldCase t)
        = trimEnd (foldCase (trimStart t)) := by rw [trim, trimStart_foldCase]
    _ = (trimStart (foldCase (trimStart t).reverse)).reverse := by
          rw [← hreverse]
          rfl
    _ = foldCase (trimStart (trimStart t).reverse).reverse := by
          rw [trimStart_foldCase, hreverse]

theorem words_foldCase (t : List Char) : words (foldCase t) = (words t).map foldCase := by
  have hempty : ((fun w : List Char => !w.isEmpty) ∘ foldCase) = fun w => !w.isEmpty := by
    funext w
    cases w with
    | nil => rfl
    | cons c cs => rfl
  rw [words, split_foldCase isBlank_toLower, List.filter_map, hempty]
  rfl

/-! ## Bytes and cuts -/

@[simp] theorem byteLength_foldCase (t : List Char) : byteLength (foldCase t) = byteLength t := by
  induction t with
  | nil => rfl
  | cons c cs ih => simp [ih]

theorem dropBytes?_foldCase (n : Nat) (t : List Char) :
    dropBytes? n (foldCase t) = (dropBytes? n t).map foldCase := by
  fun_induction dropBytes? n t with
  | case1 cs => simp [dropBytes?]
  | case2 n => rfl
  | case3 n c cs hfits ih => simpa [dropBytes?, hfits] using ih
  | case4 n c cs hfits => simp [dropBytes?, hfits]

theorem takeBytes?_foldCase (n : Nat) (t : List Char) :
    takeBytes? n (foldCase t) = (takeBytes? n t).map foldCase := by
  fun_induction takeBytes? n t with
  | case1 cs => simp [takeBytes?]
  | case2 n => rfl
  | case3 n c cs hfits ih =>
      simp only [foldCase_cons, takeBytes?, utf8Size_toLower, if_pos hfits, ih, Option.map_map]
      rfl
  | case4 n c cs hfits => simp [takeBytes?, hfits]

theorem slice?_foldCase (start stop : Nat) (t : List Char) :
    slice? start stop (foldCase t) = (slice? start stop t).map foldCase := by
  rw [slice?, slice?, dropBytes?_foldCase]
  cases dropBytes? start t with
  | none => rfl
  | some rest => exact takeBytes?_foldCase (stop - start) rest

end Text
end EmbeddedSql

/-!
# Split — pieces between separators

* `Text.split` — the pieces of a text between the characters that satisfy a test;
* `Text.join` — the text that has the given pieces, one separator between two of them.

Splitting always gives at least one piece, no piece has a separator in it, and joining the pieces of
a split at one character gives the text back.
-/

namespace EmbeddedSql
namespace Text

/-- The pieces of a text between the characters that satisfy `p`; there is always at least one. -/
def split (p : Char → Bool) : List Char → List (List Char)
  | [] => [[]]
  | c :: cs =>
    if p c then [] :: split p cs
    else
      match split p cs with
      | [] => [[c]]
      | piece :: rest => (c :: piece) :: rest

def join (sep : Char) : List (List Char) → List Char
  | [] => []
  | [piece] => piece
  | piece :: next :: rest => piece ++ sep :: join sep (next :: rest)

theorem split_ne_nil (p : Char → Bool) (t : List Char) : split p t ≠ [] := by
  cases t with
  | nil => simp [split]
  | cons c cs =>
    simp only [split]
    split
    · simp
    · split <;> simp

/-- A separator parts the pieces in front of it from those behind it. -/
theorem split_append_cons {p : Char → Bool} {c : Char} (hc : p c = true) (s t : List Char) :
    split p (s ++ c :: t) = split p s ++ split p t := by
  induction s with
  | nil => simp [split, hc]
  | cons d ds ih =>
    obtain ⟨piece, rest, h⟩ := List.exists_cons_of_ne_nil (split_ne_nil p ds)
    by_cases hd : p d = true
    · simp [split, hd, ih]
    · simp [split, hd, ih, h]

/-- Text without a separator makes the first piece longer. -/
theorem split_append_of_forall {p : Char → Bool} {r t piece : List Char} {rest : List (List Char)}
    (hr : ∀ c ∈ r, p c = false) (h : split p t = piece :: rest) :
    split p (r ++ t) = (r ++ piece) :: rest := by
  induction r with
  | nil => exact h
  | cons c cs ih =>
    have hc : p c = false := hr c List.mem_cons_self
    have hcs := ih fun d hd => hr d (List.mem_cons_of_mem _ hd)
    simp [split, hc, hcs]

theorem split_of_forall {p : Char → Bool} {r : List Char} (hr : ∀ c ∈ r, p c = false) :
    split p r = [r] := by
  have hsplit : split p (r ++ []) = [r ++ []] := split_append_of_forall hr rfl
  rwa [List.append_nil] at hsplit

theorem not_sep_of_mem_split {p : Char → Bool} {t piece : List Char} (h : piece ∈ split p t) :
    ∀ c ∈ piece, p c = false := by
  induction t generalizing piece with
  | nil =>
    rw [List.mem_singleton.1 h]
    exact fun _ hc => nomatch hc
  | cons d ds ih =>
    by_cases hd : p d = true
    · rw [split, if_pos hd] at h
      rcases List.mem_cons.1 h with rfl | hrest
      · exact fun _ hc => nomatch hc
      · exact ih hrest
    · obtain ⟨first, rest, hs⟩ := List.exists_cons_of_ne_nil (split_ne_nil p ds)
      rw [hs] at ih
      have hsplit : split p (d :: ds) = (d :: first) :: rest := by simp [split, hd, hs]
      rw [hsplit] at h
      rcases List.mem_cons.1 h with rfl | hrest
      · intro c hc
        rcases List.mem_cons.1 hc with rfl | hc
        · simpa using hd
        · exact ih List.mem_cons_self c hc
      · exact ih (List.mem_cons_of_mem _ hrest)

theorem join_split (sep : Char) (t : List Char) : join sep (split (· == sep) t) = t := by
  induction t with
  | nil => rfl
  | cons c cs ih =>
    obtain ⟨piece, rest, h⟩ := List.exists_cons_of_ne_nil (split_ne_nil (· == sep) cs)
    rw [h] at ih
    by_cases hc : c = sep
    · simp [split, hc, h, join, ih]
    · cases rest with
      | nil => simp_all [split, join]
      | cons next more => simp_all [split, join]

end Text
end EmbeddedSql

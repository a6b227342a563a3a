import EmbeddedSql.Proofs.Classification.Words
import Mathlib.Data.List.SplitBy

/-!
# Chains — names that are joined by dots

A name is a word that does not begin with a digit.  Names of which each is joined to the next by one
dot form a chain if no further name is joined to the chain at either end.

* `mem_splitBy_iff` — the groups of a list whose neighbours are related;
* `Text.IsNameChain`, `Text.chainSpan` — the chains of a text and their bytes;
* `Text.outside_of_not_mem` — between the runs of a chain there is no room for another one;
* `Text.mem_splitBy_iff_isNameChain` — the chains are the groups of joined names.
-/

namespace EmbeddedSql

open Lexeme

/-! ## Groups of a list -/

theorem mem_splitBy_iff {α : Type} {R : α → α → Bool} {l c : List α} :
    c ∈ l.splitBy R ↔ ∃ front back, l = front ++ (c ++ back) ∧ c ≠ [] ∧ c.IsChain (R · ·) ∧
      (∀ x ∈ front.getLast?, ∀ y ∈ c.head?, R x y = false) ∧
        ∀ x ∈ c.getLast?, ∀ y ∈ back.head?, R x y = false := by
  constructor
  · intro h
    rcases List.append_of_mem h with ⟨before, after, hsplit⟩
    -- What stands around a group is made of the other groups.
    have hflat : l = before.flatten ++ (c ++ after.flatten) := by
      rw [← List.flatten_splitBy R l, hsplit, List.flatten_append, List.flatten_cons]
    have hparted := List.isChain_getLast_head_splitBy R l
    rw [hsplit, List.isChain_append, List.isChain_cons] at hparted
    refine ⟨before.flatten, after.flatten, hflat, List.ne_nil_of_mem_splitBy h,
      List.isChain_of_mem_splitBy h, ?_, ?_⟩
    · intro x hx y hy
      rcases List.eq_nil_or_concat before with rfl | ⟨before, g, rfl⟩
      · cases hx
      · rcases hparted.2.2 g (by simp) c (by simp) with ⟨hg, hc, hnot⟩
        rw [List.concat_eq_append, List.flatten_append, List.flatten_singleton,
          List.getLast?_append_of_ne_nil _ hg] at hx
        rwa [List.getLast_of_mem_getLast? hx, List.head_of_mem_head? hy] at hnot
    · intro x hx y hy
      cases after with
      | nil => cases hy
      | cons g after =>
          rcases hparted.2.1.1 g rfl with ⟨hc, hg, hnot⟩
          rw [List.flatten_cons, List.head?_append_of_ne_nil _ hg] at hy
          rwa [List.getLast_of_mem_getLast? hx, List.head_of_mem_head? hy] at hnot
  · rintro ⟨front, back, rfl, hne, hchain, hfront, hback⟩
    have hhead : (c ++ back).head? = c.head? := List.head?_append_of_ne_nil _ hne
    rw [List.splitBy_append (by rwa [hhead]), List.splitBy_append hback,
      List.splitBy_of_isChain hne hchain]
    simp

theorem splitBy_cons_of_not {α : Type} {R : α → α → Bool} {a : α} {l : List α}
    (h : ∀ y ∈ l.head?, R a y = false) : (a :: l).splitBy R = [a] :: l.splitBy R := by
  have happend := List.splitBy_append (r := R) (l := [a]) (m := l) (by simpa using h)
  simpa [List.splitBy_of_isChain] using happend

theorem splitBy_cons_of_rel {α : Type} {R : α → α → Bool} {a : α} {l c : List α}
    {cs : List (List α)} (hsplit : l.splitBy R = c :: cs) (h : ∀ y ∈ c.head?, R a y = true) :
    (a :: l).splitBy R = (a :: c) :: cs := by
  rcases List.splitBy_eq_iff.1 hsplit with ⟨hflat, hne, hchains, hparted⟩
  have hc : c ≠ [] := by
    rintro rfl
    exact hne List.mem_cons_self
  rw [List.isChain_cons] at hparted
  refine List.splitBy_eq_iff.2 ⟨by rw [hflat]; rfl, ?_, ?_, List.isChain_cons.2 ⟨?_, hparted.2⟩⟩
  · intro hnil
    exact hne (List.mem_cons_of_mem _ (by simpa using hnil))
  · intro m hm
    rcases List.mem_cons.1 hm with rfl | hm
    · exact List.isChain_cons.2 ⟨h, hchains c List.mem_cons_self⟩
    · exact hchains m (List.mem_cons_of_mem _ hm)
  · intro g hg
    rcases hparted.1 g hg with ⟨_, hgne, hnot⟩
    exact ⟨by simp, hgne, by rwa [List.getLast_cons hc]⟩

/-! ## Chains of names -/

namespace Text

open Run

variable {p : Char → Bool} {text : List Char} {r v : Run} {c : List Run}

/-- Whether a run begins with a digit. -/
def Run.ledByDigit (r : Run) : Bool :=
  r.chars.head?.any Char.isDigit

/-- A word of a text that does not begin with a digit. -/
def Run.IsName (text : List Char) (r : Run) : Prop :=
  r.MaximalIn isWordChar text ∧ r.ledByDigit = false

theorem Run.MaximalIn.isName_iff (h : r.MaximalIn isWordChar text) :
    isName r.chars = true ↔ r.ledByDigit = false := by
  rcases h with ⟨_, _, _, _, hrun⟩
  rcases List.exists_cons_of_ne_nil hrun.ne_nil with ⟨c, cs, hchars⟩
  simp [isName, ledByDigit, hchars]

/-- From the first of several runs to the last one. -/
def chainSpan : List Run → Span
  | [] => ⟨0, 0⟩
  | r :: rs => ⟨r.start, (rs.getLastD r).span.stop⟩

theorem chainSpan_cons_cons (r v : Run) (c : List Run) :
    chainSpan (r :: v :: c) = ⟨r.start, (chainSpan (v :: c)).stop⟩ := by
  rw [chainSpan, List.getLastD_cons]
  rfl

/-- Names of a text, each joined to the next by one dot, to which no further name is joined. -/
structure IsNameChain (text : List Char) (c : List Run) : Prop where
  ne_nil : c ≠ []
  names : ∀ r ∈ c, r.IsName text
  joined : c.IsChain (Dotted text)
  first : ∀ r, r.IsName text → ∀ v ∈ c.head?, ¬ Dotted text r v
  last : ∀ v, v.IsName text → ∀ r ∈ c.getLast?, ¬ Dotted text r v

/-- A run that begins in a chain or behind it is one of the chain or stands behind it. -/
theorem mem_or_behind (hmax : ∀ v ∈ c, v.MaximalIn p text) (hne : c ≠ [])
    (hjoined : c.IsChain (Dotted text)) (hr : r.MaximalIn p text)
    (hle : (chainSpan c).start ≤ r.start) : r ∈ c ∨ (chainSpan c).stop < r.start := by
  induction c with
  | nil => exact absurd rfl hne
  | cons u c ih =>
      rcases (hmax u List.mem_cons_self).eq_or_apart_of_le hr hle with rfl | hapart
      · exact .inl List.mem_cons_self
      · cases c with
        | nil => exact .inr hapart
        | cons v c =>
            rcases List.isChain_cons_cons.1 hjoined with ⟨hdot, hjoined⟩
            -- The chain goes on right behind the dot, so the run cannot begin in front of that.
            have hstart : v.start ≤ r.start := by
              rw [hdot.start_eq]
              exact hapart
            rcases ih (fun x hx => hmax x (List.mem_cons_of_mem _ hx)) (by simp) hjoined hstart
              with hmem | hbehind
            · exact .inl (List.mem_cons_of_mem _ hmem)
            · rw [chainSpan_cons_cons]
              exact .inr hbehind

/-- The runs of a chain lie in its span. -/
theorem within_chainSpan (hjoined : c.IsChain (Dotted text)) (hr : r ∈ c) :
    (chainSpan c).start ≤ r.start ∧ r.span.stop ≤ (chainSpan c).stop := by
  induction c generalizing r with
  | nil => cases hr
  | cons u c ih =>
      cases c with
      | nil =>
          cases List.mem_singleton.1 hr
          exact ⟨Nat.le_refl _, Nat.le_refl _⟩
      | cons v c =>
          rcases List.isChain_cons_cons.1 hjoined with ⟨hdot, hjoined⟩
          have hv := ih hjoined List.mem_cons_self
          have hnext := hdot.start_eq
          rw [chainSpan_cons_cons]
          rcases List.mem_cons.1 hr with rfl | hr
          · refine ⟨Nat.le_refl _, ?_⟩
            simp only [span] at *
            omega
          · have hlater := ih hjoined hr
            refine ⟨?_, hlater.2⟩
            simp only [span, chainSpan] at *
            omega

/-- What is not one of a chain stands in front of it or behind it. -/
theorem outside_of_not_mem (hmax : ∀ v ∈ c, v.MaximalIn p text) (hne : c ≠ [])
    (hjoined : c.IsChain (Dotted text)) (hr : r.MaximalIn p text) (hnot : r ∉ c) :
    r.span.stop ≤ (chainSpan c).start ∨ (chainSpan c).stop ≤ r.start := by
  rcases Nat.le_total (chainSpan c).start r.start with hle | hle
  · rcases mem_or_behind hmax hne hjoined hr hle with hmem | hbehind
    · exact absurd hmem hnot
    · exact .inr (Nat.le_of_lt hbehind)
  · rcases List.exists_cons_of_ne_nil hne with ⟨v, vs, rfl⟩
    rcases hr.eq_or_apart_of_le (hmax v List.mem_cons_self) hle with rfl | hapart
    · exact absurd List.mem_cons_self hnot
    · exact .inl (Nat.le_of_lt hapart)

/-! ## Neighbours -/

theorem Run.Apart.asymm (h : r.Apart v) : ¬ v.Apart r := by
  simp only [Apart, span] at *
  omega

theorem Run.Dotted.apart (h : Dotted text r v) : r.Apart v := by
  have hnext := h.start_eq
  simp only [Apart]
  omega

/-- There is no room for a run between two that are joined. -/
theorem Run.Dotted.not_between (h : Dotted text r v) {u : Run} (hru : r.Apart u) : ¬ u.Apart v := by
  have hnext := h.start_eq
  simp only [Apart, span] at *
  omega

variable {front rest : List Run}

/-- Of runs in order, the one that is joined to another comes right behind it. -/
theorem head?_of_dotted (hapart : (front ++ r :: rest).Pairwise Apart)
    (hv : v ∈ front ++ r :: rest) (h : Dotted text r v) : rest.head? = some v := by
  rw [List.pairwise_append, List.pairwise_cons] at hapart
  rcases List.mem_append.1 hv with hv | hv
  · exact absurd (hapart.2.2 v hv r List.mem_cons_self) h.apart.asymm
  · rcases List.mem_cons.1 hv with rfl | hv
    · exact absurd h.apart h.apart.asymm
    · cases rest with
      | nil => cases hv
      | cons u rest =>
          rcases List.mem_cons.1 hv with rfl | hv
          · rfl
          · -- Otherwise the next run would stand where the dot is.
            have hru := hapart.2.1.1 u List.mem_cons_self
            have huv := (List.pairwise_cons.1 hapart.2.1.2).1 v hv
            exact absurd huv (h.not_between hru)

/-- Of runs in order, the one to which another is joined comes right in front of it. -/
theorem getLast?_of_dotted (hapart : (front ++ v :: rest).Pairwise Apart)
    (hr : r ∈ front ++ v :: rest) (h : Dotted text r v) : front.getLast? = some r := by
  rw [List.pairwise_append, List.pairwise_cons] at hapart
  rcases List.mem_append.1 hr with hr | hr
  · rcases List.eq_nil_or_concat front with rfl | ⟨front, u, rfl⟩
    · cases hr
    · rw [List.concat_eq_append] at *
      rcases List.mem_append.1 hr with hr | hr
      · have hru := (List.pairwise_append.1 hapart.1).2.2 r hr u List.mem_cons_self
        have huv := hapart.2.2 u (by simp) v List.mem_cons_self
        exact absurd huv (h.not_between hru)
      · cases List.mem_singleton.1 hr
        simp
  · rcases List.mem_cons.1 hr with rfl | hr
    · exact absurd h.apart h.apart.asymm
    · exact absurd (hapart.2.1.1 r hr) h.apart.asymm

/-- A chain among runs in order stands in one piece. -/
theorem eq_append_of_isChain (hapart : (front ++ rest).Pairwise Apart)
    (hmem : ∀ r ∈ c, r ∈ front ++ rest) (hjoined : c.IsChain (Dotted text))
    (hhead : ∀ r ∈ c.head?, rest.head? = some r) : ∃ back, rest = c ++ back := by
  induction c generalizing front rest with
  | nil => exact ⟨rest, rfl⟩
  | cons r c ih =>
      rcases List.head?_eq_some_iff.1 (hhead r rfl) with ⟨rest, rfl⟩
      rw [List.isChain_cons] at hjoined
      -- The runs up to the first one of the chain join those in front of it.
      have hregroup : front ++ r :: rest = (front ++ [r]) ++ rest := by simp
      have hnext : ∀ v ∈ c.head?, rest.head? = some v := fun v hv =>
        head?_of_dotted hapart (hmem v (List.mem_cons_of_mem _ (List.mem_of_mem_head? hv)))
          (hjoined.1 v hv)
      rw [hregroup] at hapart hmem
      rcases ih hapart (fun v hv => hmem v (List.mem_cons_of_mem _ hv)) hjoined.2 hnext
        with ⟨back, rfl⟩
      exact ⟨back, rfl⟩

/-- The chains of names are the groups of names that are joined. -/
theorem mem_splitBy_iff_isNameChain {names : List Run} (hapart : names.Pairwise Apart)
    (hnames : ∀ r, r ∈ names ↔ r.IsName text) :
    c ∈ names.splitBy (fun r v => decide (Dotted text r v)) ↔ IsNameChain text c := by
  have hdecide : ∀ {r v : Run}, decide (Dotted text r v) = false ↔ ¬ Dotted text r v :=
    decide_eq_false_iff_not
  simp only [mem_splitBy_iff, decide_eq_true_eq, hdecide]
  constructor
  · rintro ⟨front, back, rfl, hne, hjoined, hfront, hback⟩
    refine ⟨hne, fun r hr => (hnames r).1 (by simp [hr]), hjoined, ?_, ?_⟩
    · intro r hr v hv hdot
      rcases List.head?_eq_some_iff.1 hv with ⟨c, rfl⟩
      exact hfront r (getLast?_of_dotted hapart ((hnames r).2 hr) hdot) v rfl hdot
    · intro v hv r hr hdot
      rcases List.getLast?_eq_some_iff.1 hr with ⟨c, rfl⟩
      have hregroup : front ++ ((c ++ [r]) ++ back) = (front ++ c) ++ r :: back := by simp
      rw [hregroup] at hapart hnames
      exact hback r hr v (head?_of_dotted hapart ((hnames v).2 hv) hdot) hdot
  · rintro ⟨hne, hall, hjoined, hfirst, hlast⟩
    rcases List.exists_cons_of_ne_nil hne with ⟨r, rs, rfl⟩
    rcases List.append_of_mem ((hnames r).2 (hall r List.mem_cons_self)) with ⟨front, rest, rfl⟩
    rcases eq_append_of_isChain hapart (fun v hv => (hnames v).2 (hall v hv)) hjoined
      (by simp) with ⟨back, hback⟩
    rw [hback] at hnames ⊢
    refine ⟨front, back, rfl, hne, hjoined, ?_, ?_⟩
    · intro x hx
      exact hfirst x ((hnames x).1 (List.mem_append_left _ (List.mem_of_mem_getLast? hx)))
    · intro x hx y hy
      have hmem : y ∈ front ++ ((r :: rs) ++ back) := by simp [List.mem_of_mem_head? hy]
      exact hlast y ((hnames y).1 hmem) x hx

end Text
end EmbeddedSql

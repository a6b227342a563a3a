/-!
# Assoc — association lists in order of insertion

* `Assoc.get?` — the value of a key;
* `Assoc.set` — give a key a value; a key that is there keeps its place;
* `Assoc.erase` — forget a key;
* `Assoc.Distinct` — no key has two entries, which the operations keep so.

Each operation changes `get?` at its own key and at no other; what `get?` finds is in the list, and
with distinct keys nothing else is.
-/

namespace EmbeddedSql
namespace Assoc

variable {κ α : Type} [DecidableEq κ]

def get? (key : κ) : List (κ × α) → Option α
  | [] => none
  | (k, v) :: rest => if k = key then some v else get? key rest

/-- Give a key a value, keeping its place if it is there. -/
def set (key : κ) (value : α) : List (κ × α) → List (κ × α)
  | [] => [(key, value)]
  | (k, v) :: rest => if k = key then (k, value) :: rest else (k, v) :: set key value rest

def erase (key : κ) : List (κ × α) → List (κ × α)
  | [] => []
  -- The rest is gone through as well, since a list that is not distinct may have the key again.
  | (k, v) :: rest => if k = key then erase key rest else (k, v) :: erase key rest

@[simp] theorem get?_set_self (key : κ) (value : α) (l : List (κ × α)) :
    get? key (set key value l) = some value := by
  induction l with
  | nil => simp [set, get?]
  | cons e rest ih =>
    obtain ⟨k, v⟩ := e
    by_cases h : k = key <;> simp [set, get?, h, ih]

theorem get?_set_of_ne {key other : κ} (h : other ≠ key) (value : α) (l : List (κ × α)) :
    get? other (set key value l) = get? other l := by
  induction l with
  | nil => simp [set, get?, Ne.symm h]
  | cons e rest ih =>
    obtain ⟨k, v⟩ := e
    by_cases hk : k = key
    · subst hk
      simp [set, get?, Ne.symm h]
    · by_cases ho : k = other <;> simp [set, get?, hk, ho, ih, h]

@[simp] theorem get?_erase_self (key : κ) (l : List (κ × α)) : get? key (erase key l) = none := by
  induction l with
  | nil => rfl
  | cons e rest ih =>
    obtain ⟨k, v⟩ := e
    by_cases h : k = key <;> simp [erase, get?, h, ih]

theorem get?_erase_of_ne {key other : κ} (h : other ≠ key) (l : List (κ × α)) :
    get? other (erase key l) = get? other l := by
  induction l with
  | nil => rfl
  | cons e rest ih =>
    obtain ⟨k, v⟩ := e
    by_cases hk : k = key
    · subst hk
      simp [erase, get?, ih, Ne.symm h]
    · by_cases ho : k = other <;> simp [erase, get?, hk, ho, ih, h]

theorem mem_of_get? {key : κ} {value : α} {l : List (κ × α)} (h : get? key l = some value) :
    (key, value) ∈ l := by
  fun_induction get? key l with
  | case1 => cases h
  | case2 => simp_all
  | case3 k v rest hne ih => exact List.mem_cons_of_mem _ (ih h)

theorem isSome_get?_iff {key : κ} {l : List (κ × α)} :
    (get? key l).isSome = true ↔ key ∈ l.map (·.1) := by
  fun_induction get? key l with
  | case1 => simp
  | case2 => simp
  | case3 k v rest hne ih => simp [ih, Ne.symm hne]

theorem get?_map {β : Type} (f : α → β) (key : κ) (l : List (κ × α)) :
    get? key (l.map fun (k, v) => (k, f v)) = (get? key l).map f := by
  fun_induction get? key l with
  | case1 => rfl
  | case2 => simp [get?]
  | case3 k v rest hne ih => simpa [get?, hne] using ih

/-! ## Distinct keys -/

/-- No key has two entries. -/
def Distinct (l : List (κ × α)) : Prop :=
  (l.map (·.1)).Nodup

theorem erase_eq_filter (key : κ) (l : List (κ × α)) : erase key l = l.filter (·.1 ≠ key) := by
  fun_induction erase key l with
  | case1 => rfl
  | case2 v rest ih => simpa using ih
  | case3 k v rest hne ih => simpa [hne] using ih

theorem erase_of_not_mem {key : κ} {l : List (κ × α)} (h : key ∉ l.map (·.1)) :
    erase key l = l := by
  rw [erase_eq_filter, List.filter_eq_self]
  intro e he
  simpa using fun heq : e.1 = key => h (heq ▸ List.mem_map_of_mem he)

theorem Distinct.erase {l : List (κ × α)} (h : Distinct l) (key : κ) :
    Distinct (Assoc.erase key l) := by
  rw [erase_eq_filter]
  exact h.sublist (List.filter_sublist.map _)

theorem Distinct.set_perm {l : List (κ × α)} (h : Distinct l) (key : κ) (value : α) :
    (set key value l).Perm ((key, value) :: Assoc.erase key l) := by
  induction l with
  | nil => exact .refl _
  | cons e rest ih =>
    obtain ⟨k, v⟩ := e
    have hrest : k ∉ rest.map (·.1) ∧ Distinct rest := List.nodup_cons.1 h
    by_cases hk : k = key
    · subst hk
      simp [set, Assoc.erase, erase_of_not_mem hrest.1]
    · simp only [set, Assoc.erase, if_neg hk]
      exact ((ih hrest.2).cons _).trans (.swap _ _ _)

theorem Distinct.set {l : List (κ × α)} (h : Distinct l) (key : κ) (value : α) :
    Distinct (Assoc.set key value l) := by
  have hperm := (h.set_perm key value).map (·.1)
  refine hperm.nodup_iff.2 (List.nodup_cons.2 ⟨?_, h.erase key⟩)
  simp [erase_eq_filter]

theorem Distinct.get?_eq_some_iff {l : List (κ × α)} (h : Distinct l) {key : κ} {value : α} :
    get? key l = some value ↔ (key, value) ∈ l := by
  refine ⟨mem_of_get?, ?_⟩
  intro hmem
  fun_induction get? key l with
  | case1 => cases hmem
  | case2 v rest =>
    have hrest : key ∉ rest.map (·.1) := (List.nodup_cons.1 h).1
    rcases List.mem_cons.1 hmem with heq | htail
    · simp_all
    · exact absurd (List.mem_map_of_mem htail) hrest
  | case3 k v rest hne ih =>
    rcases List.mem_cons.1 hmem with heq | htail
    · simp_all
    · exact ih (List.nodup_cons.1 h).2 htail

theorem Distinct.filterMap_key {β : Type} {l : List (κ × α)} (h : Distinct l) (key : κ)
    (f : α → Option β) :
    (l.filterMap fun e => if e.1 = key then f e.2 else none) = ((get? key l).bind f).toList := by
  fun_induction get? key l with
  | case1 => rfl
  | case2 v rest =>
    have hrest : key ∉ rest.map (·.1) := (List.nodup_cons.1 h).1
    have hnone : (rest.filterMap fun e => if e.1 = key then f e.2 else none) = [] := by
      rw [List.filterMap_eq_nil_iff]
      intro e he
      have hne : e.1 ≠ key := fun heq => hrest (heq ▸ List.mem_map_of_mem he)
      exact if_neg hne
    cases hv : f v <;> simp [hnone, hv]
  | case3 k v rest hne ih => simpa [hne] using ih (List.nodup_cons.1 h).2

end Assoc
end EmbeddedSql

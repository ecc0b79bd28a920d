import TypedQuery.Path.Basic
import Mathlib.Data.List.Basic
import Mathlib.Tactic.SplitIfs

/-! The bytes of a text: their order is that of its characters, and a byte below 128 is a
character of its own. -/
namespace TypedQuery

open String (utf8EncodeChar)

theorem utf8_eq_flatMap (text : String) : utf8 text = text.toList.flatMap utf8EncodeChar := by
  rw [utf8, ← String.utf8Encode_toList, List.utf8Encode, List.toList_data_toByteArray]

@[simp] theorem utf8_append (a b : String) : utf8 (a ++ b) = utf8 a ++ utf8 b := by
  simp only [utf8_eq_flatMap, String.toList_append, List.flatMap_append]

/-- The first digit to base 64 in which two numbers differ decides which is less. -/
private theorem digits_lt {m n : Nat} (h : m < n) :
    m / 262144 < n / 262144 ∨ m / 262144 = n / 262144 ∧
      (m / 4096 % 64 < n / 4096 % 64 ∨ m / 4096 % 64 = n / 4096 % 64 ∧
        (m / 64 % 64 < n / 64 % 64 ∨ m / 64 % 64 = n / 64 % 64 ∧ m % 64 < n % 64)) := by
  have hdigits : ∀ k : Nat, k / 64 / 64 = k / 4096 ∧ k / 4096 / 64 = k / 262144 := by omega
  have hm := hdigits m
  have hn := hdigits n
  have hfirst : m / 262144 ≤ n / 262144 := by omega
  rcases Nat.lt_or_eq_of_le hfirst with hlt | hfirst
  · exact .inl hlt
  refine .inr ⟨hfirst, ?_⟩
  have hsecond : m / 4096 ≤ n / 4096 := by omega
  rcases Nat.lt_or_eq_of_le hsecond with hlt | hsecond
  · omega
  refine .inr ⟨by omega, ?_⟩
  omega

/-- Whatever follows, the bytes of the lesser character come first. -/
theorem utf8EncodeChar_append_lt {c d : Char} (h : c < d) (s t : List UInt8) :
    utf8EncodeChar c ++ s < utf8EncodeChar d ++ t := by
  have hval : c.val.toNat < d.val.toNat := h
  have hmax : d.val.toNat < 0x110000 := by
    rcases d.valid with h | ⟨_, h⟩ <;> omega
  have hdigits := digits_lt hval
  rw [String.utf8EncodeChar.eq_1, String.utf8EncodeChar.eq_1]
  -- Between lengths the first byte decides, within a length the first digit that differs.
  split_ifs <;>
    simp only [List.cons_append, List.nil_append, List.cons_lt_cons_iff, UInt8.lt_iff_toNat_lt,
      ← UInt8.toNat_inj, UInt8.toNat_ofNat'] <;>
    simp (disch := omega) only [Nat.mod_eq_of_lt (b := 256), Nat.mod_eq_of_lt (b := 32),
      Nat.mod_eq_of_lt (b := 16), Nat.mod_eq_of_lt (b := 8)] <;>
    omega

theorem flatMap_utf8EncodeChar_lt {s t : List Char} (h : s < t) :
    s.flatMap utf8EncodeChar < t.flatMap utf8EncodeChar := by
  induction s generalizing t with
  | nil =>
    cases t with
    | nil => exact absurd h (List.lt_irrefl [])
    | cons d t =>
      rw [List.flatMap_nil, List.flatMap_cons]
      cases hd : utf8EncodeChar d with
      | nil => exact absurd hd String.utf8EncodeChar_ne_nil
      | cons b bytes => exact List.nil_lt_cons b _
  | cons c s ih =>
    cases t with
    | nil => exact absurd h (List.not_lt_nil _)
    | cons d t =>
      rw [List.flatMap_cons, List.flatMap_cons]
      rcases List.cons_lt_cons_iff.mp h with hlt | ⟨rfl, htail⟩
      · exact utf8EncodeChar_append_lt hlt _ _
      · exact List.append_left_lt (ih htail)

/-- Texts compare as their bytes do. -/
theorem utf8_lt_utf8 {a b : String} (h : a < b) : utf8 a < utf8 b := by
  rw [utf8_eq_flatMap, utf8_eq_flatMap]
  exact flatMap_utf8EncodeChar_lt (String.lt_iff.mp h)

theorem utf8_inj {a b : String} : utf8 a = utf8 b ↔ a = b := by
  constructor
  · intro h
    have hdata : a.toByteArray.data = b.toByteArray.data := Array.toList_inj.mp h
    exact String.toByteArray_inj.mp (ByteArray.ext hdata)
  · rintro rfl
    rfl

theorem toNat_eq_of_mem_utf8EncodeChar {b : UInt8} {c : Char} (hb : b < 128)
    (h : b ∈ utf8EncodeChar c) : c.toNat = b.toNat := by
  have hlt : b.toNat < 128 := hb
  have hc : c.toNat = c.val.toNat := rfl
  rw [String.utf8EncodeChar.eq_1] at h
  split_ifs at h <;>
    simp only [List.mem_cons, List.not_mem_nil, or_false, ← UInt8.toNat_inj, UInt8.toNat_ofNat']
      at h <;>
    omega

/-- A byte below 128 stands for the character with its number and is part of no other. -/
theorem exists_mem_of_mem_utf8 {b : UInt8} {text : String} (hb : b < 128) (h : b ∈ utf8 text) :
    ∃ c ∈ text.toList, c.toNat = b.toNat := by
  rw [utf8_eq_flatMap] at h
  obtain ⟨c, hc, hmem⟩ := List.mem_flatMap.mp h
  exact ⟨c, hc, toNat_eq_of_mem_utf8EncodeChar hb hmem⟩

end TypedQuery

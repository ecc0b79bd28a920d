/-! Sets of characters as increasing ranges of code points. -/
namespace TypedQuery.Text

/-- Whether `n` lies in a range. The ranges increase, so the search stops at the first one above. -/
def covers : List (Nat × Nat) → Nat → Bool
  | [], _ => false
  | (lo, hi) :: rest, n => if n < lo then false else if n ≤ hi then true else covers rest n

theorem covers_eq_false_of_lt {lo hi n : Nat} (rest : List (Nat × Nat)) (h : n < lo) :
    covers ((lo, hi) :: rest) n = false := by
  simp [covers, h]

theorem exists_mem_of_covers {ranges : List (Nat × Nat)} {n : Nat} (h : covers ranges n) :
    ∃ range ∈ ranges, range.1 ≤ n ∧ n ≤ range.2 := by
  induction ranges with
  | nil => cases h
  | cons range rest ih =>
    rw [covers] at h
    split at h
    · cases h
    · split at h
      · next hlo hhi => exact ⟨range, List.mem_cons_self, Nat.le_of_not_lt hlo, hhi⟩
      · obtain ⟨other, hmem, hother⟩ := ih h
        exact ⟨other, List.mem_cons_of_mem range hmem, hother⟩

theorem covers_of_isDigit {c : Char} (rest : List (Nat × Nat)) (h : c.isDigit) :
    covers ((0x30, 0x39) :: rest) c.toNat := by
  simp only [Char.isDigit, ge_iff_le, Bool.and_eq_true, decide_eq_true_eq] at h
  obtain ⟨hlo, hhi⟩ := h
  have hlow : 48 ≤ c.toNat := hlo
  have hhigh : c.toNat ≤ 57 := hhi
  rw [covers, if_neg (by omega), if_pos (by omega)]

end TypedQuery.Text

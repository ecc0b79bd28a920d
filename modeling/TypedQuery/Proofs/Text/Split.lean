import Mathlib.Data.List.Basic

/-! Lists cut into pieces at a separator. -/
namespace TypedQuery.Text

variable {α : Type} [BEq α] [LawfulBEq α] {sep c : α} {text piece : List α}

/-- The pieces hold everything but the separators. -/
theorem exists_mem_splitOn_iff :
    (∃ piece ∈ text.splitOn sep, c ∈ piece) ↔ c ∈ text ∧ c ≠ sep := by
  induction text with
  | nil => simp [List.splitOn_nil]
  | cons d text ih =>
    rw [List.splitOn_cons_eq_if_modifyHead]
    by_cases hd : d = sep
    · subst hd
      rw [if_pos (beq_self_eq_true d), List.exists_mem_cons_iff, ih, List.mem_cons]
      constructor
      · rintro (hnil | ⟨hmem, hne⟩)
        · cases hnil
        · exact ⟨.inr hmem, hne⟩
      · rintro ⟨hmem, hne⟩
        exact .inr ⟨hmem.resolve_left hne, hne⟩
    · rw [if_neg (by simpa using hd)]
      cases hparts : text.splitOn sep with
      | nil => exact absurd hparts (List.splitOn_ne_nil sep text)
      | cons first parts =>
        rw [hparts, List.exists_mem_cons_iff] at ih
        rw [List.modifyHead_cons, List.exists_mem_cons_iff, List.mem_cons, List.mem_cons, or_assoc,
          ih, or_and_right]
        exact or_congr_left ⟨fun heq => ⟨heq, heq ▸ hd⟩, And.left⟩

theorem mem_of_mem_splitOn (h : piece ∈ text.splitOn sep) (hc : c ∈ piece) :
    c ∈ text ∧ c ≠ sep := exists_mem_splitOn_iff.mp ⟨piece, h, hc⟩

end TypedQuery.Text

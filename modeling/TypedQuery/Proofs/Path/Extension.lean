import TypedQuery.Path.Name
import Mathlib.Data.List.Basic
import Mathlib.Data.List.TakeWhile

/-! The extensions of file names. -/
namespace TypedQuery.Path

variable {α : Type} [DecidableEq α] {dot : α} {name stem ext : List α}

theorem splitExtension_of_not_mem (h : dot ∉ name) : splitExtension dot name = (name, none) := by
  have hback : name.reverse.dropWhile (· ≠ dot) = [] := by
    rw [List.dropWhile_eq_nil_iff]
    intro c hc
    have hne : c ≠ dot := ne_of_mem_of_not_mem (List.mem_reverse.mp hc) h
    simpa using hne
  rw [splitExtension, hback]

/-- A name is cut at its last dot, unless there is nothing before it. -/
theorem splitExtension_append (h : dot ∉ ext) : splitExtension dot (stem ++ dot :: ext) =
    if stem = [] then (dot :: ext, none) else (stem, some ext) := by
  have hback : ∀ c ∈ ext.reverse, decide (c ≠ dot) = true := by
    intro c hc
    have hne : c ≠ dot := ne_of_mem_of_not_mem (List.mem_reverse.mp hc) h
    simpa using hne
  have hreverse : (stem ++ dot :: ext).reverse = ext.reverse ++ dot :: stem.reverse := by simp
  have hdrop : (stem ++ dot :: ext).reverse.dropWhile (· ≠ dot) = dot :: stem.reverse := by
    rw [hreverse, List.dropWhile_append_of_pos hback, List.dropWhile_cons_of_neg (by simp)]
  have htake : (stem ++ dot :: ext).reverse.takeWhile (· ≠ dot) = ext.reverse := by
    rw [hreverse, List.takeWhile_append_of_pos hback, List.takeWhile_cons_of_neg (by simp),
      List.append_nil]
  rw [splitExtension, hdrop, htake]
  rcases List.eq_nil_or_concat' stem with rfl | ⟨front, last, rfl⟩ <;> simp

theorem splitExtension_eq_some_iff : (splitExtension dot name).2 = some ext ↔
    dot ∉ ext ∧ ∃ stem, stem ≠ [] ∧ name = stem ++ dot :: ext := by
  constructor
  · intro h
    by_cases hdot : dot ∈ name
    · obtain ⟨back, front, hback, hnot⟩ := List.eq_append_cons_of_mem (List.mem_reverse.mpr hdot)
      have hname : name = front.reverse ++ dot :: back.reverse := by
        rw [← List.reverse_reverse name, hback]
        simp
      have hext : dot ∉ back.reverse := fun hmem => hnot (List.mem_reverse.mp hmem)
      rw [hname, splitExtension_append hext] at h
      split at h
      · cases h
      · next hstem =>
        cases h
        exact ⟨hext, front.reverse, hstem, hname⟩
    · rw [splitExtension_of_not_mem hdot] at h
      cases h
  · rintro ⟨hext, stem, hstem, rfl⟩
    rw [splitExtension_append hext, if_neg hstem]

end TypedQuery.Path

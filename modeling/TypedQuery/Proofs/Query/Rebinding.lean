import TypedQuery.Proofs.Query.Binding
import Mathlib.Data.List.Forall2

/-! Bound text refers to no declared parameter, so there is nothing to bind in it. -/
namespace TypedQuery.Query

open Text (Stops isWord)
open Sql (IsWord Refers Run Token reference_induction references runs tokens)

section Code

variable {params : List Parameter} {slots : List Nat} {dialect : Dialect} {code : List Char}

/-- Code keeps the references that it cannot bind, and placeholders bring in no new ones: neither an
at sign before one nor a word behind one joins it. -/
theorem references_boundCode
    (hslots : ∀ name ∈ references code, ∀ index ∈ declared params name, index ∈ slots) :
    references (boundCode params slots dialect code) =
      (references code).filter (declared params · = none) := by
  induction code using reference_induction with
  | nil => rw [boundCode_nil, Sql.references_nil]; rfl
  | plain c rest hc ih =>
    rw [Sql.references_plain hc] at hslots ⊢
    rw [boundCode_plain hc, Sql.references_plain fun hat => stops_boundCode (hc hat), ih hslots]
  | reference name rest hn hs ih =>
    rw [Sql.references_reference hn hs] at hslots ⊢
    have hrest := ih fun n hn => hslots n (List.mem_cons_of_mem name hn)
    rw [boundCode_reference hn hs]
    cases hdecl : declared params name with
    | none =>
      rw [bindToken_of_undeclared hdecl, List.cons_append,
        Sql.references_reference hn (stops_boundCode hs), hrest,
        List.filter_cons_of_pos (by simpa using hdecl)]
    | some index =>
      obtain ⟨slot, _, htoken⟩ := bindToken_of_declared dialect hdecl
        (hslots name List.mem_cons_self index hdecl)
      rw [htoken, Sql.references_append_of_not_mem (at_not_mem_placeholder _ slot), hrest,
        List.filter_cons_of_neg (by simp [hdecl])]

theorem bindRun_nil (run : Run) : bindRun params [] dialect run = run.text := by
  have htoken : bindToken params [] dialect = Token.text := by
    funext token
    unfold bindToken
    cases token.name?.bind (declared params) <;> rfl
  rw [bindRun, htoken, Sql.flatMap_text_tokens, ite_self]

end Code

section Text

variable {params : List Parameter} {sql : List Char} {dialect : Dialect}

theorem occurrences_boundText : occurrences params (boundText sql params dialect) = [] := by
  rw [occurrences, runs_boundText, List.filter_map, List.flatMap_map, List.flatMap_eq_nil_iff]
  intro run hmem
  obtain ⟨hrun, hcode⟩ := List.mem_filter.mp hmem
  have hcode : run.code = true := hcode
  rw [boundRun_code hcode, references_boundCode fun _ hname _ =>
    mem_used_of_mem_references hrun hcode hname, List.filterMap_eq_nil_iff]
  intro name hname
  simpa using (List.mem_filter.mp hname).2

/-- No reference to a parameter is left in code. -/
theorem not_refers_boundText {run : Run} {p : Parameter}
    (hrun : run ∈ runs (boundText sql params dialect)) (hcode : run.code) (hp : p ∈ params) :
    ¬ Refers run.text p.name.toList := by
  intro hrefers
  have hdeclared : (declared params p.name.toList).isSome := by
    rw [declared, List.findIdx?_isSome, List.any_eq_true]
    exact ⟨p, hp, decide_eq_true rfl⟩
  obtain ⟨index, hindex⟩ := Option.isSome_iff_exists.mp hdeclared
  have hoccurs : index ∈ occurrences params (boundText sql params dialect) :=
    mem_occurrences_iff.mpr ⟨run, hrun, hcode, _, hrefers, hindex⟩
  rw [occurrences_boundText] at hoccurs
  exact List.not_mem_nil hoccurs

theorem bindOrder_eq_nil_iff : bindOrder sql params dialect = [] ↔ occurrences params sql = [] := by
  simp only [List.eq_nil_iff_forall_not_mem, mem_bindOrder_iff]

theorem boundText_of_occurrences_eq_nil (h : occurrences params sql = []) :
    boundText sql params dialect = sql := by
  have hused : used params sql = [] := by
    simp only [List.eq_nil_iff_forall_not_mem, mem_used_iff, h, List.not_mem_nil, not_false_iff,
      implies_true]
  have hrun : bindRun params [] dialect = Run.text := funext bindRun_nil
  rw [boundText, hused, hrun, (Sql.segmented_runs sql).flatMap_text]

end Text

/-- Binding leaves the runs of a text and what is no code. It is complete: code refers to no
parameter any more, so that binding again, for whatever dialect, changes nothing and binds nothing.
It changes every text that it binds. -/
theorem bindPlaceholders_again (sql : String) (params : List Parameter) (dialect again : Dialect) :
    List.Forall₂ (fun bound run => bound.code = run.code ∧ (run.code = false → bound = run))
        (runs (bindPlaceholders sql params dialect).1.toList) (runs sql.toList) ∧
      (∀ run ∈ runs (bindPlaceholders sql params dialect).1.toList, run.code →
        ∀ p ∈ params, ¬ Refers run.text p.name.toList) ∧
      bindPlaceholders (bindPlaceholders sql params dialect).1 params again =
        ((bindPlaceholders sql params dialect).1, []) ∧
      ((bindPlaceholders sql params dialect).1 = sql ↔
        (bindPlaceholders sql params dialect).2 = []) := by
  have hbound : (bindPlaceholders sql params dialect).1.toList =
      boundText sql.toList params dialect := String.toList_ofList
  have hagain : ∀ again, bindOrder (boundText sql.toList params dialect) params again = [] :=
    fun _ => bindOrder_eq_nil_iff.mpr occurrences_boundText
  refine ⟨?_, ?_, ?_, ?_⟩
  · rw [hbound, runs_boundText, List.forall₂_map_left_iff, List.forall₂_same]
    exact fun run _ => ⟨rfl, boundRun_kept⟩
  · rw [hbound]
    exact fun run hrun hcode p hp => not_refers_boundText hrun hcode hp
  · refine Prod.ext ?_ ?_
    · change String.ofList
        (boundText (bindPlaceholders sql params dialect).1.toList params again) = _
      rw [hbound, boundText_of_occurrences_eq_nil occurrences_boundText]
      rfl
    · change bindOrder (bindPlaceholders sql params dialect).1.toList params again = []
      rw [hbound, hagain]
  · rw [← String.toList_inj, hbound]
    change _ ↔ bindOrder sql.toList params dialect = []
    constructor
    · intro hsame
      rw [← hsame, hagain]
    · intro hnil
      exact boundText_of_occurrences_eq_nil (bindOrder_eq_nil_iff.mp hnil)

end TypedQuery.Query

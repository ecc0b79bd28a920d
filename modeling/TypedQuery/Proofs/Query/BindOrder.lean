import TypedQuery.Proofs.Query.Binding
import Mathlib.Data.List.Forall2

/-! The parameters that a text binds: the same ones for every dialect, each once where placeholders
carry numbers and once for each rewritten reference where they do not. -/
namespace TypedQuery.Query

open Sql (IsWord Refers Run reference_induction references runs)
open Text (Stops isWord)

variable {params : List Parameter} {slots : List Nat} {sql : List Char} {dialect : Dialect}

/-- The names of parameters that a run refers to as code, in order, each as often as it does. -/
def rewritten (params : List Parameter) (run : Run) : List (List Char) :=
  if run.code then (references run.text).filter (declared params · |>.isSome) else []

/-- The second text is the first with a placeholder for each of some references, whose names are
listed in order. All other characters are the same. -/
inductive Rewrites (dialect : Dialect) : List (List Char) → List Char → List Char → Prop where
  | nil : Rewrites dialect [] [] []
  | keep {names text bound} (c : Char) (htail : Rewrites dialect names text bound) :
      Rewrites dialect names (c :: text) (c :: bound)
  | replace {name names text bound} (slot : Nat) (hname : IsWord name) (hstop : Stops isWord text)
      (htail : Rewrites dialect names text bound) :
      Rewrites dialect (name :: names) ('@' :: (name ++ text)) (dialect.placeholder slot ++ bound)

section Rewrites

variable {names : List (List Char)} {text bound code : List Char} {run : Run}

theorem Rewrites.prepend (kept : List Char) (h : Rewrites dialect names text bound) :
    Rewrites dialect names (kept ++ text) (kept ++ bound) := by
  induction kept with
  | nil => exact h
  | cons c kept ih => exact .keep c ih

theorem rewrites_boundCode
    (hslots : ∀ name ∈ references code, ∀ index ∈ declared params name, index ∈ slots) :
    Rewrites dialect ((references code).filter (declared params · |>.isSome)) code
      (boundCode params slots dialect code) := by
  induction code using reference_induction with
  | nil =>
    rw [boundCode_nil, Sql.references_nil]
    exact .nil
  | plain c rest hc ih =>
    rw [Sql.references_plain hc] at hslots ⊢
    rw [boundCode_plain hc]
    exact .keep c (ih hslots)
  | reference name rest hn hs ih =>
    rw [Sql.references_reference hn hs] at hslots ⊢
    have hrest := ih fun n hn => hslots n (List.mem_cons_of_mem name hn)
    rw [boundCode_reference hn hs]
    cases hdecl : declared params name with
    | none =>
      rw [bindToken_of_undeclared hdecl, List.filter_cons_of_neg (by simp [hdecl])]
      exact hrest.prepend ('@' :: name)
    | some index =>
      obtain ⟨slot, -, htoken⟩ := bindToken_of_declared dialect hdecl
        (hslots name List.mem_cons_self index hdecl)
      rw [htoken, List.filter_cons_of_pos (by simp [hdecl])]
      exact .replace slot hn hs hrest

/-- Binding replaces exactly the references to parameters, and those in code only. -/
theorem rewrites_boundRun (dialect : Dialect) (hrun : run ∈ runs sql) :
    Rewrites dialect (rewritten params run) run.text
      (boundRun params (used params sql) dialect run).text := by
  rw [rewritten]
  cases hcode : run.code with
  | true =>
    rw [boundRun_code hcode, if_pos rfl]
    exact rewrites_boundCode fun name hname index => mem_used_of_mem_references hrun hcode hname
  | false =>
    rw [boundRun_kept hcode, if_neg Bool.false_ne_true]
    have hnil : Rewrites dialect [] [] [] := .nil
    have hkept := hnil.prepend run.text
    rwa [List.append_nil] at hkept

end Rewrites

/-- Each rewritten reference is one occurrence. -/
theorem length_rewritten :
    ((runs sql).flatMap (rewritten params)).length = (occurrences params sql).length := by
  rw [occurrences, List.length_flatMap, List.length_flatMap]
  induction runs sql with
  | nil => rfl
  | cons run segments ih =>
    rw [List.map_cons, List.sum_cons, ih, rewritten]
    cases hcode : run.code with
    | true =>
      rw [List.filter_cons_of_pos hcode, List.map_cons, List.sum_cons, if_pos rfl,
        List.length_filterMap_eq_countP, List.countP_eq_length_filter]
    | false =>
      rw [List.filter_cons_of_neg (by simp [hcode]), if_neg Bool.false_ne_true, List.length_nil,
        Nat.zero_add]

theorem used_pairwise_lt (params : List Parameter) (sql : List Char) :
    (used params sql).Pairwise (· < ·) := List.pairwise_lt_range.filter _

/-- Every dialect binds the parameters that code refers to, and of several with one name the
first. -/
theorem mem_bindOrder_iff_refers {index : Nat} : index ∈ bindOrder sql params dialect ↔
    ∃ p, params[index]? = some p ∧ (∀ q ∈ params.take index, q.name ≠ p.name) ∧
      ∃ run ∈ runs sql, run.code ∧ Refers run.text p.name.toList := by
  simp only [mem_bindOrder_iff, mem_occurrences_iff, declared_eq_some_iff_take]
  constructor
  · rintro ⟨run, hrun, hcode, _, hrefers, p, hp, rfl, hfirst⟩
    exact ⟨p, hp, hfirst, run, hrun, hcode, hrefers⟩
  · rintro ⟨p, hp, hfirst, run, hrun, hcode, hrefers⟩
    exact ⟨run, hrun, hcode, _, hrefers, p, hp, rfl, hfirst⟩

/-- Dialects with numbered placeholders bind in one order, that of the declarations. MySQL binds the
same parameters, one for each reference that is replaced; these are the references to parameters in
code, and nothing else of a text is replaced for any dialect. No dialect binds anything but
parameters that code refers to, or a parameter whose name an earlier one has. -/
theorem bindOrder_canonical (sql : String) (params : List Parameter) :
    (bindPlaceholders sql params .postgres).2 = (bindPlaceholders sql params .sqlite).2 ∧
    (bindPlaceholders sql params .postgres).2.Pairwise (· < ·) ∧
    (∀ index, index ∈ (bindPlaceholders sql params .postgres).2 ↔
      index ∈ (bindPlaceholders sql params .mysql).2) ∧
    (∀ dialect, List.Forall₂
      (fun bound run => bound.code = run.code ∧
        Rewrites dialect (rewritten params run) run.text bound.text)
      (runs (bindPlaceholders sql params dialect).1.toList) (runs sql.toList)) ∧
    (bindPlaceholders sql params .mysql).2.length =
      ((runs sql.toList).flatMap (rewritten params)).length ∧
    ∀ dialect index, index ∈ (bindPlaceholders sql params dialect).2 ↔
      ∃ p, params[index]? = some p ∧ (∀ q ∈ params.take index, q.name ≠ p.name) ∧
        ∃ run ∈ runs sql.toList, run.code ∧ Refers run.text p.name.toList := by
  refine ⟨rfl, used_pairwise_lt params sql.toList, ?_, ?_, ?_, ?_⟩
  · exact fun index => mem_used_iff
  · intro dialect
    have hbound : (bindPlaceholders sql params dialect).1.toList =
        boundText sql.toList params dialect := String.toList_ofList
    rw [hbound, runs_boundText, List.forall₂_map_left_iff, List.forall₂_same]
    exact fun run hrun => ⟨rfl, rewrites_boundRun dialect hrun⟩
  · exact length_rewritten.symm
  · exact fun dialect index => mem_bindOrder_iff_refers

end TypedQuery.Query

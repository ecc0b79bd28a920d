import TypedQuery.Proofs.Query.Composition
import TypedQuery.Proofs.Sql.Cut
import Mathlib.Data.List.Induction

/-! The declarations of a text: what cleaning makes of them and which of them become parameters. -/
namespace TypedQuery.Query

open Sql (Cut IsCut)

/-- The parameters before which none has the same name. -/
def firstOfEachName (params : List Parameter) : List Parameter :=
  (params.zipIdx.filter fun (p, i) => ∀ q ∈ params.take i, q.name ≠ p.name).map (·.1)

/-- One parameter more changes nothing about those before it. -/
theorem firstOfEachName_concat (params : List Parameter) (p : Parameter) :
    firstOfEachName (params ++ [p]) =
      firstOfEachName params ++ if ∀ q ∈ params, q.name ≠ p.name then [p] else [] := by
  have hfront : params.zipIdx.filter (fun (q, i) =>
        ∀ earlier ∈ (params ++ [p]).take i, earlier.name ≠ q.name) =
      params.zipIdx.filter fun (q, i) => ∀ earlier ∈ params.take i, earlier.name ≠ q.name := by
    apply List.filter_congr
    rintro ⟨q, i⟩ hmem
    have hlt : i < params.length := by simpa using List.snd_lt_of_mem_zipIdx hmem
    simp only [List.take_append_of_le_length hlt.le]
  rw [firstOfEachName, List.zipIdx_append, List.filter_append, hfront, List.map_append]
  congr 1
  split <;> simp_all

theorem distinctNames_eq_firstOfEachName (params : List Parameter) :
    distinctNames params = firstOfEachName params := by
  induction params using List.reverseRecOn with
  | nil => rfl
  | append_singleton params p ih =>
    have hnames : (∀ q ∈ distinctNames params, q.name ≠ p.name) ↔ ∀ q ∈ params, q.name ≠ p.name := by
      constructor
      · intro h q hq
        obtain ⟨first, hfirst, hname⟩ := exists_mem_distinctNames hq
        rw [← hname]
        exact h first hfirst
      · exact fun h q hq => h q (mem_of_mem_distinctNames hq)
    have hlast : (distinctNames [p]).filter (fun r => ∀ q ∈ distinctNames params, q.name ≠ r.name) =
        if ∀ q ∈ params, q.name ≠ p.name then [p] else [] := by
      simp only [distinctNames, List.filter_nil, List.filter_singleton, hnames, Bool.cond_decide]
    rw [distinctNames_append, hlast, firstOfEachName_concat, ih]

/-- There is one way to cut a text into declarations and gaps that leaves no declaration in a gap.
Cleaning takes the types out of it, and its parameters are the names with their types, the first of
each name. -/
theorem exists_cut_cleanSql_parameters (text : String) :
    ∃ cut : Cut, (∀ other, IsCut text.toList other ↔ other = cut) ∧
      cleanSql text = .ofList cut.untyped ∧
      parameters text = firstOfEachName (cut.pairs.map fun (name, type) =>
        { name := .ofList name, sqlType := .ofList type }) ∧
      (parameters text).Pairwise (·.name ≠ ·.name) := by
  refine ⟨.ofTokens (Sql.typedTokens text.toList), fun _ => Sql.isCut_iff, ?_, ?_,
    parameters_pairwise text⟩
  · rw [Cut.untyped_ofTokens]
    rfl
  · rw [Cut.pairs_ofTokens, ← distinctNames_eq_firstOfEachName]
    rfl

end TypedQuery.Query

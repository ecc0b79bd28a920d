import TypedQuery.Proofs.Query.Cleaning
import TypedQuery.Proofs.Query.Directive

/-! What a text declares, from what its parts declare. -/
namespace TypedQuery.Query

open Sql (clean declarations)

theorem distinctNames_append (front rest : List Parameter) :
    distinctNames (front ++ rest) = distinctNames front ++
      (distinctNames rest).filter fun p => ∀ q ∈ distinctNames front, q.name ≠ p.name := by
  induction front with
  | nil => simp [distinctNames]
  | cons first front ih =>
    rw [List.cons_append, distinctNames, distinctNames, ih, List.filter_append, List.filter_filter,
      List.cons_append]
    congr 2
    apply List.filter_congr
    intro p _
    -- A name that is left out in front of `p` is the first one, which `p` may not have either.
    rw [Bool.eq_iff_iff, Bool.and_eq_true, decide_eq_true_eq, decide_eq_true_eq, decide_eq_true_eq,
      List.forall_mem_cons]
    simp only [List.mem_filter, decide_eq_true_eq]
    constructor
    · rintro ⟨hfirst, hfront⟩
      exact ⟨Ne.symm hfirst, fun q hq => hfront q hq.1⟩
    · rintro ⟨hfirst, hfront⟩
      refine ⟨Ne.symm hfirst, fun q hq => ?_⟩
      by_cases hq' : q.name = first.name
      · rwa [hq']
      · exact hfront q ⟨hq, hq'⟩

theorem toList_append_newline (a b : String) :
    (a ++ "\n" ++ b).toList = a.toList ++ '\n' :: b.toList := by
  simp

/-- No reference goes on behind a line feed. -/
theorem stops_newline (rest : List Char) : Text.Stops Sql.continues ('\n' :: rest) :=
  Text.stops_cons.mpr (by decide)

/-- A text that is put together from two, with a line feed between them, has the first value of a
directive that either has, the parameters of the first and those of the second with other names,
and the SQL of both. -/
theorem metadata_append (a b key : String) :
    metadataValue (a ++ "\n" ++ b) key = (metadataValue a key).or (metadataValue b key) ∧
    parameters (a ++ "\n" ++ b) = parameters a ++
      (parameters b).filter (fun p => ∀ q ∈ parameters a, q.name ≠ p.name) ∧
    cleanSql (a ++ "\n" ++ b) = cleanSql a ++ "\n" ++ cleanSql b := by
  refine ⟨?_, ?_, ?_⟩
  · rw [metadataValue, toList_append_newline, textValue?_append, Option.map_or]
    rfl
  · have hnewline : declarations ('\n' :: b.toList) = declarations b.toList :=
      Sql.declarations_plain nofun
    rw [parameters, toList_append_newline, Sql.declarations_append (stops_newline _), hnewline,
      List.map_append, distinctNames_append]
    rfl
  · have hnewline : clean ('\n' :: b.toList) = '\n' :: clean b.toList := Sql.clean_plain nofun
    rw [← String.toList_inj, toList_append_newline, toList_cleanSql, toList_cleanSql,
      toList_cleanSql, toList_append_newline, Sql.clean_append (stops_newline _), hnewline]

end TypedQuery.Query

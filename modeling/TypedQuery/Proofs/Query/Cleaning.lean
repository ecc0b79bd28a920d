import TypedQuery.Proofs.Query.Parameter
import TypedQuery.Proofs.Sql.Shape

/-! Cleaned text next to the text it comes from: the same runs, the same parameters to bind, and a
way back. -/
namespace TypedQuery.Sql

open Text (isWord Stops)

theorem continues_of_isDelimiter {c : Char} (h : isDelimiter c) : continues c = false :=
  eq_false_of_isDelimiter (by decide) h

theorem sameShape_clean (text : List Char) : SameShape text (clean text) := by
  induction text using declaration_induction with
  | nil => rw [clean_nil]; exact .nil
  | plain c rest hc ih => rw [clean_plain hc]; exact .cons c ih
  | untyped name rest hn hs hu ih =>
    rw [clean_untyped hn hs hu]
    exact .cons '@' ((SameShape.refl name).append ih)
  | typed name type rest hn ht hs ih =>
    have hname := inert_of_isWord hn.2
    have htype : Inert (name ++ ':' :: type) :=
      hname.append (inert_cons (by decide) (inert_of_isWord ht.2))
    have htail := SameShape.inert (by simp) hn.1 htype hname ih
    rw [List.append_assoc] at htail
    rw [clean_typed hn ht hs]
    exact .cons '@' htail

/-- A delimiter is part of no reference, so a text may be cut behind it. -/
theorem clean_append_of_last {front rest : List Char} {c : Char} (hc : isDelimiter c) :
    clean (front ++ [c] ++ rest) = clean (front ++ [c]) ++ clean rest := by
  have hstop : ∀ after, Text.Stops continues (c :: after) := fun after =>
    Text.stops_cons.mpr (continues_of_isDelimiter hc)
  have hplain : ∀ after, clean (c :: after) = c :: clean after := by
    intro after
    apply clean_plain
    rintro rfl
    exact absurd hc (by decide)
  rw [List.append_assoc, List.singleton_append, clean_append (hstop rest), clean_append (hstop []),
    hplain, hplain, clean_nil, List.append_assoc]
  rfl

theorem Segmented.clean_eq {text : List Char} {segments : List Run}
    (h : Segmented text segments) : clean text = segments.flatMap (clean ·.text) := by
  induction h with
  | nil => exact clean_nil
  | @nonCode text rest segments hsome tail ih =>
    rw [List.flatMap_cons, ← ih]
    -- A line comment ends before its delimiter, everything else with it.
    rcases nonCode?_seam hsome with hhead | ⟨front, c, rfl, hc⟩
    · exact clean_append (fun c hc => continues_of_isDelimiter (hhead c hc))
    · exact clean_append_of_last hc
  | @code text rest segments _ _ hlast tail ih =>
    have hhead := tail.head?_delimiter hlast
    rw [List.flatMap_cons, ← ih]
    exact clean_append (fun c hc => continues_of_isDelimiter (hhead c hc))

/-- Cleaning leaves comments, quoted text and code where they are. -/
theorem runs_clean (text : List Char) :
    runs (clean text) = (runs text).map fun run => { run with text := clean run.text } := by
  rw [(segmented_runs text).clean_eq]
  exact runs_flatMap fun run _ => sameShape_clean run.text

end TypedQuery.Sql

namespace TypedQuery.Query

open Sql (Refers TypedThroughout clean runs runs_clean substitute)

@[simp] theorem toList_cleanSql (text : String) : (cleanSql text).toList = clean text.toList :=
  String.toList_ofList

theorem occurrences_clean (params : List Parameter) (sql : List Char) :
    occurrences params (clean sql) = occurrences params sql := by
  rw [occurrences, runs_clean, List.filter_map, List.flatMap_map]
  simp only [Sql.references_clean]
  rfl

theorem bindOrder_clean (params : List Parameter) (sql : List Char) (dialect : Dialect) :
    bindOrder (clean sql) params dialect = bindOrder sql params dialect := by
  simp only [bindOrder, used, occurrences_clean]

/-- The typed references are found in the whole text and the runs in the cleaned one, and still
they agree on what is code. -/
theorem runs_cleanSql_and_bindOrder (text : String) :
    runs (cleanSql text).toList =
        (runs text.toList).map (fun run => { run with text := clean run.text }) ∧
      (∀ params dialect, (bindPlaceholders (cleanSql text) params dialect).2 =
        (bindPlaceholders text params dialect).2) ∧
      ∀ (dialect : Dialect) (i : Fin (parameters text).length),
        i.val ∈ (bindPlaceholders (cleanSql text) (parameters text) dialect).2 ↔
          ∃ run ∈ runs text.toList, run.code ∧
            Refers run.text (parameters text)[i].name.toList := by
  refine ⟨?_, ?_, ?_⟩
  · rw [toList_cleanSql, runs_clean]
  · intro params dialect
    change bindOrder (cleanSql text).toList params dialect = bindOrder text.toList params dialect
    rw [toList_cleanSql, bindOrder_clean]
  · intro dialect i
    change i.val ∈ bindOrder (cleanSql text).toList (parameters text) dialect ↔ _
    rw [toList_cleanSql, bindOrder_clean, mem_bindOrder_iff, mem_occurrences_iff]
    simp only [declared_eq_some_iff (parameters_pairwise text)]
    simp

/-- Cleaning loses nothing but types that are known: putting them back after every reference gives
the text, exactly if each reference to a parameter had the parameter's type. -/
theorem substitute_cleanSql_iff (text : String) :
    String.ofList (substitute (Sql.annotated (typeOf (parameters text))) (cleanSql text).toList) =
        text ↔ TypedThroughout (typeOf (parameters text)) text.toList := by
  rw [toList_cleanSql, ← Sql.substitute_clean_iff (fun _ _ => isWord_of_typeOf)
    (fun _ => typeOf_ne_none), ← String.toList_inj, String.toList_ofList]

end TypedQuery.Query

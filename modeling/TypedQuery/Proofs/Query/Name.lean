import TypedQuery.Proofs.Query.Directive
import TypedQuery.Proofs.Query.Parameter

/-! Where the names of a query and of its parameters come from. -/
namespace TypedQuery

namespace Path

variable {α : Type} [DecidableEq α] {slash dot c : α} {path name : List α}

theorem mem_of_mem_fileName? (h : fileName? slash dot path = some name) (hc : c ∈ name) :
    c ∈ path := by
  have hpart := List.mem_of_getLast? (Option.filter_eq_some_iff.mp h).1
  exact (Text.mem_of_mem_splitOn (List.mem_filter.mp hpart).1 hc).1

theorem stem_subset (name : List α) : (splitExtension dot name).1 ⊆ name := by
  unfold splitExtension
  split
  · exact List.Subset.refl name
  · exact List.Subset.refl name
  · next stem _ heq =>
    intro c hc
    have hmem : c ∈ name.reverse.dropWhile (· ≠ dot) := by
      rw [heq]
      exact List.mem_cons_of_mem _ (List.mem_reverse.mp hc)
    exact List.mem_reverse.mp ((List.dropWhile_sublist _).subset hmem)

end Path

theorem SourceUnit.defaultName_subset (fileName : List Char) : defaultName fileName ⊆ fileName := by
  unfold defaultName
  split
  · next name hname =>
    exact fun c hc => Path.mem_of_mem_fileName? hname (Path.stem_subset name hc)
  · exact List.Subset.refl fileName

namespace Query

variable {text : String} {p : Parameter} {c : Char}

theorem mem_of_mem_parameterName (h : p ∈ parameters text) (hc : c ∈ p.name.toList) :
    c ∈ text.toList := by
  obtain ⟨d, hd, rfl⟩ := List.mem_map.mp (mem_of_mem_distinctNames h)
  rw [String.toList_ofList] at hc
  apply (Sql.infix_of_mem_declarations hd).subset
  exact List.mem_cons_of_mem _ (List.mem_append_left _ hc)

end Query

namespace QueryMetadata

variable {baseName text fileName : String} {c : Char}

/-- A query's name comes from one line of its text, or from the name of its file. -/
theorem mem_of_mem_queryName (h : c ∈ (ofText baseName text).queryName.toList) :
    (c ∈ text.toList ∧ c ≠ '\n') ∨ c ∈ baseName.toList := by
  rw [ofText] at h
  cases hvalue : Query.textValue? "name".toList text.toList with
  | none =>
    rw [Query.metadataValue, hvalue] at h
    exact .inr h
  | some value =>
    rw [Query.metadataValue, hvalue] at h
    have hc : c ∈ value := by simpa using h
    exact .inl (Query.mem_of_textValue? hvalue hc)

theorem mem_of_mem_queryName_ofFile
    (h : c ∈ (ofSource (.ofFile fileName text)).queryName.toList) :
    (c ∈ text.toList ∧ c ≠ '\n') ∨ c ∈ fileName.toList := by
  have hname : (ofSource (.ofFile fileName text)).queryName =
      (ofText (.ofList (SourceUnit.defaultName fileName.toList)) text).queryName := rfl
  rw [hname] at h
  refine (mem_of_mem_queryName h).imp_right fun hc => ?_
  rw [String.toList_ofList] at hc
  exact SourceUnit.defaultName_subset _ hc

end QueryMetadata
end TypedQuery

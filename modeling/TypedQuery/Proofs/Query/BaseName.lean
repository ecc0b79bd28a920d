import TypedQuery.Proofs.Path.Extension
import TypedQuery.Query.Metadata

/-! A text under a base name, and the same text in the file of that base name. -/
namespace TypedQuery

namespace Path

variable {α : Type} [DecidableEq α] {slash dot : α} {front name : List α}

/-- What follows the last slash is the file name, unless it is empty or made of dots that lead
elsewhere. -/
theorem fileName?_append (hfront : front = [] ∨ front.getLast? = some slash) (hname : slash ∉ name)
    (hne : name ≠ []) (hdot : name ≠ [dot]) (hdots : name ≠ [dot, dot]) :
    fileName? slash dot (front ++ name) = some name := by
  have hlast : ∃ before, (front ++ name).splitOn slash = before ++ [name] := by
    rcases hfront with rfl | hslash
    · exact ⟨[], List.splitOn_eq_singleton hname⟩
    · obtain ⟨dir, rfl⟩ := List.getLast?_eq_some_iff.mp hslash
      refine ⟨dir.splitOn slash, ?_⟩
      rw [List.append_assoc, List.singleton_append, List.splitOn_append_cons_self,
        List.splitOn_eq_singleton hname]
  obtain ⟨before, hbefore⟩ := hlast
  have hkept : [name].filter (fun part => part ≠ [] ∧ part ≠ [dot]) = [name] := by simp [hne, hdot]
  rw [fileName?, parts, hbefore, List.filter_append, hkept, List.getLast?_concat]
  exact Option.filter_some_pos (by simpa using hdots)

end Path

namespace SourceUnit

variable {front base : List Char}

theorem defaultName_append_sql (hfront : front = [] ∨ front.getLast? = some '/')
    (hbase : '/' ∉ base) : defaultName (front ++ (base ++ ".sql".toList)) =
      if base = [] then ".sql".toList else base := by
  have hslash : '/' ∉ base ++ ".sql".toList := by
    rw [List.mem_append, not_or]
    exact ⟨hbase, by decide⟩
  have hlength : 4 ≤ (base ++ ".sql".toList).length := by
    rw [List.length_append]
    exact Nat.le_add_left 4 base.length
  have hfile : Path.fileName? '/' '.' (front ++ (base ++ ".sql".toList)) =
      some (base ++ ".sql".toList) := by
    apply Path.fileName?_append hfront hslash <;> intro heq <;> rw [heq] at hlength <;>
      revert hlength <;> decide
  have hext : Path.splitExtension '.' (base ++ ".sql".toList) =
      if base = [] then (".sql".toList, none) else (base, some "sql".toList) :=
    Path.splitExtension_append (by decide)
  rw [defaultName, hfile]
  dsimp only
  rw [hext]
  split <;> rfl

/-- The file `base.sql` gives its base as the default name if the base is a name and not a path. -/
theorem defaultName_append_sql_eq_iff :
    defaultName (base ++ ".sql".toList) = base ↔ base ≠ [] ∧ '/' ∉ base := by
  by_cases hslash : '/' ∈ base
  · -- No part behind the last slash can be the whole base.
    obtain ⟨back, dir, hback, hlast⟩ := List.eq_append_cons_of_mem (List.mem_reverse.mpr hslash)
    have hsplit : base = (dir.reverse ++ ['/']) ++ back.reverse := by
      rw [← List.reverse_reverse base, hback]
      simp
    have hpart : '/' ∉ back.reverse := fun hmem => hlast (List.mem_reverse.mp hmem)
    have hname : defaultName (base ++ ".sql".toList) =
        if back.reverse = [] then ".sql".toList else back.reverse := by
      rw [hsplit, List.append_assoc]
      exact defaultName_append_sql (.inr List.getLast?_concat) hpart
    refine iff_of_false (fun heq => ?_) (fun h => h.2 hslash)
    rw [← heq, hname] at hslash
    split at hslash
    · exact absurd hslash (by decide)
    · exact hpart hslash
  · have hname : defaultName (base ++ ".sql".toList) = if base = [] then ".sql".toList else base :=
      defaultName_append_sql (.inl rfl) hslash
    rw [hname]
    split
    case isTrue hnil => exact iff_of_false (by rw [hnil]; decide) (fun h => h.1 hnil)
    case isFalse hne => exact iff_of_true rfl ⟨hne, hslash⟩

end SourceUnit

namespace QueryMetadata

/-- Apart from the query's name the two ways to the metadata of a text agree. -/
theorem ofSource_ofFile_sql (baseName text : String) :
    ofSource (.ofFile (baseName ++ ".sql") text) =
      { ofText baseName text with
        queryName := (Query.metadataValue text "name").getD
          (.ofList (SourceUnit.defaultName (baseName.toList ++ ".sql".toList))) } := by
  rw [← String.toList_append]
  rfl

/-- A text under a base name and in the file of that base name declares the same, unless it leaves
the query's name to a base that is empty or a path. -/
theorem ofSource_ofFile_eq_ofText_iff (baseName text : String) :
    ofSource (.ofFile (baseName ++ ".sql") text) = ofText baseName text ↔
      (Query.metadataValue text "name").isSome ∨ (baseName ≠ "" ∧ '/' ∉ baseName.toList) := by
  have hempty : baseName ≠ "" ↔ baseName.toList ≠ [] := by simp
  rw [ofSource_ofFile_sql, hempty, ← SourceUnit.defaultName_append_sql_eq_iff, ofText, mk.injEq]
  simp only [and_true]
  cases Query.metadataValue text "name" with
  | some name => simp
  | none =>
    rw [Option.getD_none, Option.getD_none]
    constructor
    · intro heq
      have htext := congrArg String.toList heq
      rw [String.toList_ofList] at htext
      exact .inr htext
    · rintro (hsome | heq)
      · cases hsome
      · rw [heq, String.ofList_toList]

end QueryMetadata
end TypedQuery

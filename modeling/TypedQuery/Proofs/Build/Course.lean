import TypedQuery.Build.Write
import Mathlib.Data.List.Nodup
import Mathlib.Data.List.Perm.Basic

/-! How far writing gets, and the order in which it goes through the units. -/
namespace TypedQuery.Build

variable {settings : BuildSettings} {cwd : Location} {out : Path} {units : List GeneratedUnit}
  {store : Store}

/-- The courses that writing can take: refused, without a directory, stopped at a unit, stopped at
the index, done. -/
inductive Course (settings : BuildSettings) (cwd : Location) (out : Path)
    (units : List GeneratedUnit) (store : Store) : Except Failure WriteSummary × Store → Prop where
  | duplicate {first unit} (hfound : duplicate? [] units = some (first, unit)) :
      Course settings cwd out units store
        (.error (.duplicateQuery unit.typeName first.sourceFile unit.sourceFile), store)
  | directory {cause made} (hdistinct : duplicate? [] units = none)
      (hmade : store.makeDirs cwd out = (.error cause, made)) :
      Course settings cwd out units store (.error (.io out cause), made)
  | unit {made failure after} (hdistinct : duplicate? [] units = none)
      (hmade : store.makeDirs cwd out = (.ok (), made))
      (hunits : writeUnits cwd out (byTypeName units) made = (.error failure, after)) :
      Course settings cwd out units store (.error failure, after)
  | index {made tally filled failure} (hdistinct : duplicate? [] units = none)
      (hmade : store.makeDirs cwd out = (.ok (), made))
      (hunits : writeUnits cwd out (byTypeName units) made = (.ok tally, filled))
      (hindex : writeIfChanged cwd filled (indexPath settings out)
        (Code.indexSource ((byTypeName units).map (·.fileName))) = .error failure) :
      Course settings cwd out units store (.error failure, filled)
  | done {made tally filled changed after} (hdistinct : duplicate? [] units = none)
      (hmade : store.makeDirs cwd out = (.ok (), made))
      (hunits : writeUnits cwd out (byTypeName units) made = (.ok tally, filled))
      (hindex : writeIfChanged cwd filled (indexPath settings out)
        (Code.indexSource ((byTypeName units).map (·.fileName))) = .ok (changed, after)) :
      Course settings cwd out units store
        (.ok ⟨tally.written, tally.unchanged, indexPath settings out⟩, after)

theorem course_write (settings : BuildSettings) (cwd : Location) (out : Path)
    (units : List GeneratedUnit) (store : Store) :
    Course settings cwd out units store (write settings cwd out units store) := by
  unfold write
  cases hdistinct : duplicate? [] units with
  | some pair => exact .duplicate hdistinct
  | none =>
    rcases hmade : store.makeDirs cwd out with ⟨_ | _, made⟩
    · exact .directory hdistinct hmade
    rcases hunits : writeUnits cwd out (byTypeName units) made with ⟨_ | tally, filled⟩
    · simp only [hunits]
      exact .unit hdistinct hmade hunits
    simp only [hunits]
    split
    · next hindex => exact .index hdistinct hmade hunits hindex
    · next hindex => exact .done hdistinct hmade hunits hindex

section Errors

theorem writeIfChanged_eq_error {path : Path} {text : String} {failure : Failure}
    (h : writeIfChanged cwd store path text = .error failure) :
    ∃ cause, failure = .io path cause := by
  unfold writeIfChanged at h
  split at h
  · cases h
  · split at h
    · cases h
    · next cause _ =>
      cases h
      exact ⟨cause, rfl⟩

end Errors

section Order

theorem byTypeName_perm (units : List GeneratedUnit) : (byTypeName units).Perm units :=
  List.mergeSort_perm _ _

theorem mem_byTypeName {unit : GeneratedUnit} : unit ∈ byTypeName units ↔ unit ∈ units :=
  (byTypeName_perm units).mem_iff

theorem byTypeName_pairwise_le (units : List GeneratedUnit) :
    (byTypeName units).Pairwise fun a b => a.typeName ≤ b.typeName := by
  have hsorted : (byTypeName units).Pairwise
      fun a b => decide (a.typeName ≤ b.typeName) = true := by
    apply List.pairwise_mergeSort
    · intro a b c hab hbc
      simp only [decide_eq_true_eq] at hab hbc ⊢
      exact String.le_trans hab hbc
    · intro a b
      rw [Bool.or_eq_true, decide_eq_true_eq, decide_eq_true_eq]
      exact String.le_total _ _
  exact hsorted.imp of_decide_eq_true

/-- Units with different types stand in a strict order. -/
theorem byTypeName_pairwise_lt (h : (units.map (·.typeName)).Nodup) :
    (byTypeName units).Pairwise fun a b => a.typeName < b.typeName := by
  have hnodup := ((byTypeName_perm units).map (·.typeName)).nodup_iff.mpr h
  have hne : (byTypeName units).Pairwise fun a b => a.typeName ≠ b.typeName :=
    List.pairwise_map.mp hnodup
  refine (byTypeName_pairwise_le units).imp₂ ?_ hne
  intro a b hle hne
  by_contra hlt
  exact hne (String.le_antisymm hle (String.not_lt.mp hlt))

/-- The order of units with different types does not matter. -/
theorem byTypeName_congr {other : List GeneratedUnit} (h : (units.map (·.typeName)).Nodup)
    (hperm : other.Perm units) : byTypeName other = byTypeName units := by
  refine List.Perm.eq_of_pairwise ?_ (byTypeName_pairwise_le other) (byTypeName_pairwise_le units)
    ((byTypeName_perm other).trans (hperm.trans (byTypeName_perm units).symm))
  intro a b ha hb hab hba
  have ha : a ∈ units := hperm.mem_iff.mp (mem_byTypeName.mp ha)
  exact List.inj_on_of_nodup_map h ha (mem_byTypeName.mp hb) (String.le_antisymm hab hba)

end Order

end TypedQuery.Build

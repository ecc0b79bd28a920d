import TypedQuery.Proofs.Build.Success

/-! What is there after units have been written, whatever was there before. -/
namespace TypedQuery.Build

/-- Each unit's code is in its file, the index names the files in the order of their bytes, the
files that were stale are counted as written, and nothing else has changed. -/
structure Outcome (settings : BuildSettings) (cwd : Location) (out : Path)
    (units : List GeneratedUnit) (before : Store) (summary : WriteSummary) (after : Store) :
    Prop where
  files : ∀ unit ∈ units, after.readBytes cwd (unitPath out unit) = .ok unit.source.toByteArray
  index : ∃ names : List String, names.Perm (units.map (·.fileName)) ∧
    names.Pairwise (utf8 · < utf8 ·) ∧
    after.readBytes cwd (indexPath settings out) = .ok (Code.indexSource names).toByteArray
  path : summary.index = indexPath settings out
  total : summary.written + summary.unchanged = units.length
  written : summary.written = units.countP (isStale cwd out before)
  only : ∀ loc, after.get? loc = before.get? loc ∨
    (before.get? loc = none ∧ after.get? loc = some .dir ∧
      ∃ path ∈ out :: out.ancestors, before.location? cwd path = some loc) ∨
    (∃ unit ∈ units, before.location? cwd (unitPath out unit) = some loc) ∨
    before.location? cwd (indexPath settings out) = some loc

variable {settings : BuildSettings} {cwd : Location} {out : Path} {units other : List GeneratedUnit}
  {store after : Store} {summary : WriteSummary}

theorem byTypeName_fileName_pairwise (hgenerated : ∀ unit ∈ units, unit.IsGenerated)
    (hdistinct : (units.map (·.typeName)).Nodup) :
    ((byTypeName units).map (·.fileName)).Pairwise (utf8 · < utf8 ·) := by
  rw [List.pairwise_map]
  refine (byTypeName_pairwise_lt hdistinct).imp_of_mem ?_
  intro a b ha hb hlt
  have ha := hgenerated a (mem_byTypeName.mp ha)
  have hb := hgenerated b (mem_byTypeName.mp hb)
  exact utf8_lt_utf8 (ha.fileName_lt hb hlt)

theorem write_congr (hdistinct : (units.map (·.typeName)).Nodup) (hperm : other.Perm units) :
    write settings cwd out other store = write settings cwd out units store := by
  have hother : (other.map (·.typeName)).Nodup := (hperm.map _).nodup_iff.mpr hdistinct
  rw [write, write, duplicate?_nil_eq_none_iff.mpr hdistinct, duplicate?_nil_eq_none_iff.mpr hother,
    byTypeName_congr hdistinct hperm]

/-- A call that succeeds gets to all units and counts the stale ones. -/
theorem write_ok (hgenerated : ∀ unit ∈ units, unit.IsGenerated) (htree : store.IsTree)
    (hlinks : store.NoLinksIn cwd out)
    (h : write settings cwd out units store = (.ok summary, after)) :
    reachedBy cwd out units store = byTypeName units ∧
      summary.index = indexPath settings out ∧
      summary.written = units.countP (isStale cwd out store) ∧
      summary.written + summary.unchanged = units.length := by
  have hcourse := course_write settings cwd out units store
  rw [h] at hcourse
  cases hcourse with
  | @done made tally filled changed _ hdistinct hmade hunits hwritten =>
    have hmakes := Store.makeDirs_makesDirs store cwd out
    rw [hmade] at hmakes
    have hunits : (writeUnits cwd out (byTypeName units) made).1 = .ok tally := by rw [hunits]
    have hapart := byTypeName_pairwise_apart hgenerated (hmakes.grows.noLinksIn hlinks) hdistinct
    obtain ⟨hcount, htotal⟩ := writeUnits_tally (hmakes.grows.tree htree) hapart hunits
    have hstale : isStale cwd out made = isStale cwd out store := by
      funext unit
      rw [isStale, isStale, Store.textAt?, Store.textAt?, hmakes.fileAt?_eq]
    refine ⟨?_, rfl, ?_, ?_⟩
    · rw [reachedBy_of_made hdistinct hmade, reached_of_ok hunits]
    · rw [hcount, hstale, (byTypeName_perm units).countP_eq]
    · rw [htotal, (byTypeName_perm units).length_eq]

/-- Units with different types that are written without a failure end up as they should, and the
order in which they are given does not matter. -/
theorem write_outcome (settings : BuildSettings) (cwd : Location) (out : Path)
    (units : List GeneratedUnit) (store : Store)
    (hgenerated : ∀ unit ∈ units, unit.IsGenerated) (hdistinct : (units.map (·.typeName)).Nodup)
    (htree : store.IsTree) (hlinks : store.LinkFree)
    (hindex : ∀ unit ∈ units, store.Apart cwd (indexPath settings out) (unitPath out unit)) :
    (∀ summary after, write settings cwd out units store = (.ok summary, after) →
      Outcome settings cwd out units store summary after) ∧
    ∀ other : List GeneratedUnit, other.Perm units →
      write settings cwd out other store = write settings cwd out units store := by
  refine ⟨?_, fun other hperm => write_congr hdistinct hperm⟩
  intro summary after h
  have hlinks : store.NoLinksIn cwd out := hlinks.noLinksIn
  obtain ⟨hreached, hpath, hwritten, htotal⟩ := write_ok hgenerated htree hlinks h
  obtain ⟨made, hmakes, hfills⟩ := write_fills hgenerated htree hlinks hindex
  rw [filledBy, h, hreached] at hfills
  refine ⟨?_, ?_, hpath, htotal, hwritten, ?_⟩
  · intro unit hunit
    have hfile : unitFile out unit ∈ (byTypeName units).map (unitFile out) :=
      List.mem_map_of_mem (mem_byTypeName.mpr hunit)
    exact hfills.filled _ (List.mem_append_left _ hfile)
  · refine ⟨(byTypeName units).map (·.fileName), (byTypeName_perm units).map _,
      byTypeName_fileName_pairwise hgenerated hdistinct, ?_⟩
    exact hfills.filled _ (List.mem_append_right _ (List.mem_singleton_self _))
  · intro loc
    rcases hfills.only loc with hsame | ⟨file, hfile, hloc⟩
    · rcases hmakes.only loc with hold | ⟨hnone, hdir, hpath⟩
      · exact .inl (hsame.trans hold)
      · exact .inr (.inl ⟨hnone, hsame.trans hdir, hpath⟩)
    · rw [hmakes.grows.location?_eq] at hloc
      rcases List.mem_append.mp hfile with hfile | hfile
      · obtain ⟨unit, hunit, rfl⟩ := List.mem_map.mp hfile
        exact .inr (.inr (.inl ⟨unit, mem_byTypeName.mp hunit, hloc⟩))
      · rw [List.mem_singleton.mp hfile] at hloc
        exact .inr (.inr (.inr hloc))

/-- Units of which one has a name that begins with the whole name of the other. -/
def prefixUnits : List GeneratedUnit :=
  [.ofSource (.ofFile "a.sql" "SELECT 1") {}, .ofSource (.ofFile "aQuery1.sql" "SELECT 2") {}]

theorem prefixUnits_fileName :
    prefixUnits.map (·.fileName) = ["aQuery.g.rs", "aQuery1Query.g.rs"] := by decide +kernel

theorem prefixUnits_nodup : (prefixUnits.map (·.typeName)).Nodup := by decide +kernel

theorem byTypeName_prefixUnits : byTypeName prefixUnits = prefixUnits := by
  apply List.mergeSort_of_pairwise
  decide +kernel

theorem prefixUnits_isGenerated : ∀ unit ∈ prefixUnits, unit.IsGenerated := by
  intro unit hunit
  rcases List.mem_pair.mp hunit with rfl | rfl
  · exact ⟨_, _, rfl⟩
  · exact ⟨_, _, rfl⟩

theorem prefixUnits_apart (hlinks : store.NoLinksIn cwd out) :
    ∀ unit ∈ prefixUnits, store.Apart cwd (indexPath {} out) (unitPath out unit) := by
  intro unit hunit
  have hplain : IsPlainName (utf8 "dipper_queries.rs") := by constructor <;> decide +kernel
  have hfile : unit.fileName ∈ ["aQuery.g.rs", "aQuery1Query.g.rs"] := by
    rw [← prefixUnits_fileName]
    exact List.mem_map_of_mem hunit
  apply hlinks.apart hplain (prefixUnits_isGenerated unit hunit).isPlainName
  intro hsame
  rw [← utf8_inj.mp hsame] at hfile
  revert hfile
  decide

/-- The texts of the units are too long to be computed, and they do not matter here. -/
theorem write_prefixUnits_of_writable (htree : store.IsTree)
    (hmade : (store.makeDirs [] (.ofString "out")).1 = .ok ())
    (hwritable : ∀ name ∈ ["aQuery.g.rs", "aQuery1Query.g.rs", "dipper_queries.rs"],
      (store.makeDirs [] (.ofString "out")).2.Writable [] ((Path.ofString "out").join
        (.ofString name))) :
    ∃ summary after, write {} [] (.ofString "out") prefixUnits store = (.ok summary, after) := by
  have hdistinct := duplicate?_nil_eq_none_iff.mpr prefixUnits_nodup
  refine write_of_writable hdistinct htree (Prod.ext hmade rfl) (fun unit hunit => ?_) ?_
  · have hname : unit.fileName ∈ prefixUnits.map (·.fileName) := List.mem_map_of_mem hunit
    rw [prefixUnits_fileName] at hname
    exact hwritable _ (List.mem_append_left ["dipper_queries.rs"] hname)
  · exact hwritable "dipper_queries.rs" (by simp)

theorem write_prefixUnits : ∃ summary after,
    write {} [] (.ofString "out") prefixUnits .empty = (.ok summary, after) :=
  write_prefixUnits_of_writable Store.isTree_empty (by decide +kernel) (by decide +kernel)

theorem write_outcome_prefixUnits : ∃ summary after,
    write {} [] (.ofString "out") prefixUnits.reverse .empty = (.ok summary, after) ∧
      Outcome {} [] (.ofString "out") prefixUnits .empty summary after := by
  obtain ⟨summary, after, h⟩ := write_prefixUnits
  obtain ⟨houtcome, horder⟩ := write_outcome {} [] (.ofString "out") prefixUnits .empty
    prefixUnits_isGenerated prefixUnits_nodup Store.isTree_empty Store.linkFree_empty
    (prefixUnits_apart Store.linkFree_empty.noLinksIn)
  refine ⟨summary, after, ?_, houtcome summary after h⟩
  rw [horder _ (List.reverse_perm prefixUnits), h]

end TypedQuery.Build

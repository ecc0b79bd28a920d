import TypedQuery.Proofs.Build.Duplicate

/-! What one call of `write` fills, also where it fails. -/
namespace TypedQuery.Build

open Store (Fills MakesDirs)

/-- The units that a call gets to. -/
def reachedBy (cwd : Location) (out : Path) (units : List GeneratedUnit) (store : Store) :
    List GeneratedUnit :=
  match duplicate? [] units, store.makeDirs cwd out with
  | none, (.ok _, made) => reached cwd out (byTypeName units) made
  | _, _ => []

def indexFile (settings : BuildSettings) (out : Path) (units : List GeneratedUnit) :
    Store.TextFile :=
  ⟨indexPath settings out, Code.indexSource ((byTypeName units).map (·.fileName))⟩

/-- The files that a call fills: those of the units it gets to, and the index if it succeeds. -/
def filledBy (settings : BuildSettings) (cwd : Location) (out : Path) (units : List GeneratedUnit)
    (store : Store) : List Store.TextFile :=
  (reachedBy cwd out units store).map (unitFile out) ++
    match (write settings cwd out units store).1 with
    | .ok _ => [indexFile settings out units]
    | .error _ => []

/-- The file at the path is as before, with its content, and so is any other entry that the path
leads to. Where there was none there may be a directory now, if the path is on the way to `out`, as
the path of the unit `a` is on the way to `o/aQuery.g.rs/..`. -/
structure Kept (cwd : Location) (out path : Path) (before after : Store) : Prop where
  file : after.fileAt? cwd path = before.fileAt? cwd path
  entry : ∀ loc, before.location? cwd path = some loc → after.get? loc = before.get? loc ∨
    before.get? loc = none ∧ after.get? loc = some .dir ∧
      ∃ above ∈ out :: out.ancestors, before.location? cwd above = some loc

/-- What a call that fails at a unit leaves: the units before it in their files, the files of the
others and the index as they were. -/
structure StoppedAt (settings : BuildSettings) (cwd : Location) (out : Path)
    (units : List GeneratedUnit) (unit : GeneratedUnit) (before after : Store) : Prop where
  written : ∀ earlier ∈ units, earlier.typeName < unit.typeName →
    after.readBytes cwd (unitPath out earlier) = .ok earlier.source.toByteArray
  kept : ∀ other ∈ units, ¬ other.typeName < unit.typeName →
    Kept cwd out (unitPath out other) before after
  index : Kept cwd out (indexPath settings out) before after

variable {settings : BuildSettings} {cwd : Location} {out path : Path} {units : List GeneratedUnit}
  {store made after : Store} {unit a b : GeneratedUnit} {cause : OsError}

theorem apart_unitPath (ha : a.IsGenerated) (hb : b.IsGenerated) (hlinks : store.NoLinksIn cwd out)
    (hne : a.typeName ≠ b.typeName) : store.Apart cwd (unitPath out a) (unitPath out b) := by
  apply hlinks.apart ha.isPlainName hb.isPlainName
  intro hsame
  exact hne ((ha.fileName_inj hb).mp (utf8_inj.mp hsame))

theorem byTypeName_pairwise_apart (hgenerated : ∀ unit ∈ units, unit.IsGenerated)
    (hlinks : store.NoLinksIn cwd out) (hdistinct : duplicate? [] units = none) :
    (byTypeName units).Pairwise fun a b => store.Apart cwd (unitPath out a) (unitPath out b) := by
  have hsorted := byTypeName_pairwise_lt (duplicate?_nil_eq_none_iff.mp hdistinct)
  refine hsorted.imp_of_mem ?_
  intro a b ha hb hlt
  have ha := hgenerated a (mem_byTypeName.mp ha)
  have hb := hgenerated b (mem_byTypeName.mp hb)
  refine apart_unitPath ha hb hlinks ?_
  intro heq
  rw [heq] at hlt
  exact String.lt_irrefl _ hlt

theorem reachedBy_subset (cwd : Location) (out : Path) (units : List GeneratedUnit)
    (store : Store) : reachedBy cwd out units store ⊆ units := by
  intro unit hunit
  unfold reachedBy at hunit
  split at hunit
  · next made _ _ =>
    exact mem_byTypeName.mp ((reached_prefix_units cwd out (byTypeName units) made).subset hunit)
  · exact absurd hunit List.not_mem_nil

theorem mem_filledBy {file : Store.TextFile} (h : file ∈ filledBy settings cwd out units store) :
    (∃ unit ∈ reachedBy cwd out units store, file = unitFile out unit) ∨
      file = indexFile settings out units := by
  rcases List.mem_append.mp h with h | h
  · obtain ⟨unit, hunit, rfl⟩ := List.mem_map.mp h
    exact .inl ⟨unit, hunit, rfl⟩
  · split at h
    · exact .inr (List.mem_singleton.mp h)
    · exact absurd h List.not_mem_nil

section Reached

theorem reachedBy_of_duplicate {pair : GeneratedUnit × GeneratedUnit}
    (h : duplicate? [] units = some pair) : reachedBy cwd out units store = [] := by
  rw [reachedBy, h]

theorem reachedBy_of_error (h : store.makeDirs cwd out = (.error cause, made)) :
    reachedBy cwd out units store = [] := by
  rw [reachedBy, h]
  cases duplicate? [] units <;> rfl

theorem reachedBy_of_made (hdistinct : duplicate? [] units = none)
    (hmade : store.makeDirs cwd out = (.ok (), made)) :
    reachedBy cwd out units store = reached cwd out (byTypeName units) made := by
  rw [reachedBy, hdistinct, hmade]

end Reached

/-- Whatever a call comes to, it makes directories and then fills files. -/
theorem write_fills (hgenerated : ∀ unit ∈ units, unit.IsGenerated) (htree : store.IsTree)
    (hlinks : store.NoLinksIn cwd out)
    (hindex : ∀ unit ∈ units, store.Apart cwd (indexPath settings out) (unitPath out unit)) :
    ∃ made, MakesDirs cwd (out :: out.ancestors) store made ∧
      Fills cwd (filledBy settings cwd out units store) made
        (write settings cwd out units store).2 := by
  have hcourse := course_write settings cwd out units store
  have hmakes := Store.makeDirs_makesDirs store cwd out
  unfold filledBy
  generalize write settings cwd out units store = outcome at hcourse ⊢
  -- What is the same for all courses on which the directory is there.
  have hfills : ∀ made, duplicate? [] units = none → store.makeDirs cwd out = (.ok (), made) →
      MakesDirs cwd (out :: out.ancestors) store made ∧
      Fills cwd ((reachedBy cwd out units store).map (unitFile out)) made
        (writeUnits cwd out (byTypeName units) made).2 := by
    intro made hdistinct hmade
    rw [hmade] at hmakes
    rw [reachedBy_of_made hdistinct hmade]
    have hlinks := hmakes.grows.noLinksIn hlinks
    exact ⟨hmakes, writeUnits_fills (hmakes.grows.tree htree)
      (byTypeName_pairwise_apart hgenerated hlinks hdistinct)⟩
  cases hcourse with
  | duplicate hfound =>
    rw [reachedBy_of_duplicate hfound]
    exact ⟨store, .refl cwd _ store, .refl cwd store⟩
  | directory hdistinct hmade =>
    rw [reachedBy_of_error hmade]
    rw [hmade] at hmakes
    exact ⟨_, hmakes, .refl cwd _⟩
  | @unit made failure after hdistinct hmade hunits =>
    have hfills := hfills made hdistinct hmade
    rw [hunits] at hfills
    rw [List.append_nil]
    exact ⟨made, hfills⟩
  | @index made tally filled failure hdistinct hmade hunits hfailed =>
    have hfills := hfills made hdistinct hmade
    rw [hunits] at hfills
    rw [List.append_nil]
    exact ⟨made, hfills⟩
  | @done made tally filled changed after hdistinct hmade hunits hwritten =>
    obtain ⟨hmakes, hfills⟩ := hfills made hdistinct hmade
    rw [hunits] at hfills
    have hlast := (writeIfChanged_ok (hfills.grows.tree (hmakes.grows.tree htree)) hwritten).1
    refine ⟨made, hmakes, hfills.trans hlast ?_⟩
    intro file hfile other hother
    obtain ⟨unit, hunit, rfl⟩ := List.mem_map.mp hfile
    rw [List.mem_singleton.mp hother]
    exact (hmakes.grows.apart (hindex unit (reachedBy_subset cwd out units store hunit))).symm

/-- A call that succeeds makes directories, fills the files of all units and then the index. -/
theorem write_eq_ok {summary : WriteSummary} (hgenerated : ∀ unit ∈ units, unit.IsGenerated)
    (htree : store.IsTree) (hlinks : store.NoLinksIn cwd out)
    (h : write settings cwd out units store = (.ok summary, after)) :
    ∃ made filled, MakesDirs cwd (out :: out.ancestors) store made ∧
      Fills cwd ((byTypeName units).map (unitFile out)) made filled ∧
      Fills cwd [indexFile settings out units] filled after := by
  have hcourse := course_write settings cwd out units store
  rw [h] at hcourse
  cases hcourse with
  | @done made tally filled changed _ hdistinct hmade hunits hwritten =>
    have hmakes := Store.makeDirs_makesDirs store cwd out
    rw [hmade] at hmakes
    have hapart := byTypeName_pairwise_apart hgenerated (hmakes.grows.noLinksIn hlinks) hdistinct
    have hfills := writeUnits_fills (hmakes.grows.tree htree) hapart
    rw [reached_of_ok (congrArg Prod.fst hunits), hunits] at hfills
    have hindex := (writeIfChanged_ok (hfills.grows.tree (hmakes.grows.tree htree)) hwritten).1
    exact ⟨made, filled, hmakes, hfills, hindex⟩

section Stopped

theorem unitPath_inj (ha : a.IsGenerated) (hb : b.IsGenerated) :
    unitPath out a = unitPath out b ↔ a.typeName = b.typeName := by
  rw [← ha.fileName_inj hb, ← utf8_inj]
  exact Path.join_inj ha.isPlainName hb.isPlainName

/-- A failure that names the file of a unit tells which units were written. -/
theorem reachedBy_of_stopped (hgenerated : ∀ unit ∈ units, unit.IsGenerated)
    (htree : store.IsTree) (hlinks : store.NoLinksIn cwd out)
    (hindex : ∀ unit ∈ units, store.Apart cwd (indexPath settings out) (unitPath out unit))
    (hunit : unit ∈ units)
    (h : (write settings cwd out units store).1 = .error (.io (unitPath out unit) cause)) :
    (units.map (·.typeName)).Nodup ∧
      ∃ later, byTypeName units = reachedBy cwd out units store ++ unit :: later := by
  have hcourse := course_write settings cwd out units store
  have hfills := write_fills hgenerated htree hlinks hindex
  unfold filledBy at hfills
  generalize write settings cwd out units store = outcome at h hcourse hfills
  have hgen := hgenerated unit hunit
  cases hcourse with
  | duplicate => cases h
  | done => cases h
  | directory =>
    have hpath : out = unitPath out unit := (Failure.io.inj (Except.error.inj h)).1
    exact absurd hpath.symm (Path.join_ne hgen.isPlainName)
  | @unit made failure after hdistinct hmade hunits =>
    have hdistinct' := duplicate?_nil_eq_none_iff.mp hdistinct
    obtain ⟨stopped, later, cause, hsorted, rfl⟩ := writeUnits_error (congrArg Prod.fst hunits)
    have hpath := (Failure.io.inj (Except.error.inj h)).1
    have hmem : stopped ∈ units := by
      rw [← mem_byTypeName, hsorted]
      exact List.mem_append_right _ List.mem_cons_self
    have hname := (unitPath_inj (hgenerated stopped hmem) hgen).mp hpath
    obtain rfl : stopped = unit := List.inj_on_of_nodup_map hdistinct' hmem hunit hname
    rw [reachedBy_of_made hdistinct hmade]
    exact ⟨hdistinct', later, hsorted⟩
  | @index made tally filled failure hdistinct hmade hunits hfailed =>
    -- The unit was written, so its path leads somewhere, and the index is not there.
    obtain ⟨cause, rfl⟩ := writeIfChanged_eq_error hfailed
    have hpath : indexPath settings out = unitPath out unit :=
      (Failure.io.inj (Except.error.inj h)).1
    obtain ⟨made', hmakes, hfills⟩ := hfills
    have hreached : reachedBy cwd out units store = byTypeName units := by
      rw [reachedBy_of_made hdistinct hmade, reached_of_ok (congrArg Prod.fst hunits)]
    rw [hreached] at hfills
    have hread := hfills.filled (unitFile out unit)
      (List.mem_append_left _ (List.mem_map_of_mem (mem_byTypeName.mpr hunit)))
    obtain ⟨loc, hleads, _⟩ := Store.readBytes_eq_ok hread
    have hloc : store.location? cwd (unitPath out unit) = some loc := by
      rw [← hmakes.grows.location?_eq, ← hfills.grows.location?_eq]
      exact hleads.location?_eq
    have hapart := hindex unit hunit
    rw [hpath] at hapart
    exact absurd hloc (hapart loc hloc)

theorem write_stoppedAt (hgenerated : ∀ unit ∈ units, unit.IsGenerated)
    (htree : store.IsTree) (hlinks : store.NoLinksIn cwd out)
    (hindex : ∀ unit ∈ units, store.Apart cwd (indexPath settings out) (unitPath out unit))
    (hunit : unit ∈ units)
    (h : (write settings cwd out units store).1 = .error (.io (unitPath out unit) cause)) :
    StoppedAt settings cwd out units unit store (write settings cwd out units store).2 := by
  obtain ⟨hdistinct, rest, hsorted⟩ := reachedBy_of_stopped hgenerated htree hlinks hindex hunit h
  obtain ⟨made, hmakes, hfills⟩ := write_fills hgenerated htree hlinks hindex
  rw [filledBy, h, List.append_nil] at hfills
  have horder := byTypeName_pairwise_lt hdistinct
  rw [hsorted] at horder
  obtain ⟨_, hafter, hbefore⟩ := List.pairwise_append.mp horder
  have hkept : ∀ path, (∀ reached ∈ reachedBy cwd out units store,
      store.Apart cwd path (unitPath out reached)) →
      Kept cwd out path store (write settings cwd out units store).2 := by
    intro path hapart
    have hfiles : ∀ file ∈ (reachedBy cwd out units store).map (unitFile out),
        made.Apart cwd path file.path := by
      intro file hfile
      obtain ⟨reached, hreached, rfl⟩ := List.mem_map.mp hfile
      exact hmakes.grows.apart (hapart reached hreached)
    refine ⟨?_, fun loc hloc => ?_⟩
    · rw [hfills.fileAt?_eq hfiles, hmakes.fileAt?_eq]
    · rw [← hmakes.grows.location?_eq] at hloc
      rw [hfills.get?_eq hfiles hloc]
      exact hmakes.only loc
  refine ⟨?_, ?_, ?_⟩
  · intro earlier hearlier hlt
    have hmem : earlier ∈ reachedBy cwd out units store := by
      have hmem := mem_byTypeName.mpr hearlier
      rw [hsorted] at hmem
      refine (List.mem_append.mp hmem).resolve_right fun hrest => ?_
      rcases List.mem_cons.mp hrest with rfl | hrest
      · exact String.lt_irrefl _ hlt
      · exact String.lt_asymm hlt ((List.pairwise_cons.mp hafter).1 earlier hrest)
    exact hfills.filled (unitFile out earlier) (List.mem_map_of_mem hmem)
  · intro later hlater hlt
    refine hkept _ fun reached hreached => ?_
    have hmem := reachedBy_subset cwd out units store hreached
    refine apart_unitPath (hgenerated later hlater) (hgenerated reached hmem) hlinks ?_
    intro heq
    rw [heq] at hlt
    exact hlt (hbefore reached hreached unit List.mem_cons_self)
  · exact hkept _ fun reached hreached =>
      hindex reached (reachedBy_subset cwd out units store hreached)

end Stopped

end TypedQuery.Build

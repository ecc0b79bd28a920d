import TypedQuery.Proofs.Build.Success
import TypedQuery.Proofs.Code.IndexReader
import TypedQuery.Proofs.Path.Descent

/-! Where writing units puts their files. -/
namespace TypedQuery.Build

open Store (MakesDirs Touches)

/-- The characters that end a line by one convention or another. -/
def lineBreaks : List Char := ['\n', '\x0b', '\x0c', '\r', '\u0085', '\u2028', '\u2029']

/-- The name is one step of a path, and it stands for itself between quotes on one line. -/
structure IsOrdinaryName (name : String) : Prop where
  step : IsPlainName (utf8 name)
  components : (Path.ofString name).components = [utf8 name]
  chars : ∀ c ∈ name.toList, c ∉ ['/', '\x00', '\x22', '\\'] ++ lineBreaks

/-- What has changed is a directory that was missing on the way to `out`, a file of a unit, which is
an entry of that directory, or the entry that the index's path leads to. -/
def StaysIn (settings : BuildSettings) (cwd : Location) (out : Path) (units : List GeneratedUnit)
    (before after : Store) : Prop :=
  ∀ loc, after.get? loc = before.get? loc ∨
    (before.get? loc = none ∧ after.get? loc = some .dir ∧
      ∃ path ∈ out :: out.ancestors, before.location? cwd path = some loc) ∨
    (∃ dir, before.location? cwd out = some dir ∧
      ∃ unit ∈ units, loc = dir ++ [utf8 unit.fileName]) ∨
    before.location? cwd (indexPath settings out) = some loc

/-- The unit's file is an entry of the directory `out`. It holds the unit's code, unless the index's
path leads to it, too. -/
def PlacedIn (settings : BuildSettings) (cwd : Location) (out : Path) (unit : GeneratedUnit)
    (before after : Store) : Prop :=
  ∃ dir content, before.location? cwd out = some dir ∧ after.get? dir = some .dir ∧
    after.get? (dir ++ [utf8 unit.fileName]) = some (.file content) ∧
    (before.location? cwd (indexPath settings out) ≠ some (dir ++ [utf8 unit.fileName]) →
      content = unit.source.toByteArray)

variable {settings : BuildSettings} {cwd : Location} {out path : Path} {units : List GeneratedUnit}
  {unit : GeneratedUnit} {text : String} {store after : Store} {changed : Bool}

theorem isOrdinaryName_fileName (h : unit.IsGenerated) : IsOrdinaryName unit.fileName where
  step := h.isPlainName
  components := Path.components_of_isPlainName h.isPlainName
  chars c hc := by
    have hall : (['/', '\x00', '\x22', '\\'] ++ lineBreaks).all (!Code.isFileChar ·) := by
      decide +kernel
    intro hmem
    have hnot := List.all_eq_true.mp hall c hmem
    rw [h.isFileChar_of_mem hc] at hnot
    cases hnot

theorem names_unitPath (out : Path) (h : unit.IsGenerated) :
    (unitPath out unit).names = out.names ++ [utf8 unit.fileName] :=
  Path.names_descend (List.forall_mem_singleton.mpr h.isPlainName)

section Touched

theorem writeIfChanged_touches (htree : store.IsTree)
    (h : writeIfChanged cwd store path text = .ok (changed, after)) :
    Touches cwd [path] store after :=
  (writeIfChanged_ok htree h).1.touches

/-- Units are written to their own files, up to the first that cannot be written. -/
theorem writeUnits_touches (units : List GeneratedUnit) (htree : store.IsTree) :
    Touches cwd (units.map (unitPath out)) store (writeUnits cwd out units store).2 := by
  induction units generalizing store with
  | nil => exact .refl cwd [] store
  | cons unit rest ih =>
    cases hstep : writeIfChanged cwd store (unitPath out unit) unit.source with
    | error failure =>
      rw [(writeUnits_cons_error rest hstep).1]
      exact .refl cwd _ store
    | ok step =>
      rw [(writeUnits_cons_ok rest hstep).1]
      have hfirst := writeIfChanged_touches htree hstep
      have hlater := ih (hfirst.grows.tree htree)
      have hhead : [unitPath out unit] ⊆ (unit :: rest).map (unitPath out) := by simp
      have hrest : rest.map (unitPath out) ⊆ (unit :: rest).map (unitPath out) :=
        List.subset_cons_self _ _
      exact (hfirst.mono hhead).trans (hlater.mono hrest)

/-- Whatever a call comes to, it makes directories and then touches files of its own. -/
theorem write_touches (settings : BuildSettings) (cwd : Location) (out : Path)
    (units : List GeneratedUnit) (htree : store.IsTree) :
    ∃ made, MakesDirs cwd (out :: out.ancestors) store made ∧
      Touches cwd (indexPath settings out :: units.map (unitPath out)) made
        (write settings cwd out units store).2 := by
  have hcourse := course_write settings cwd out units store
  have hmakes := Store.makeDirs_makesDirs store cwd out
  generalize write settings cwd out units store = outcome at hcourse ⊢
  have hunits : ∀ made, store.makeDirs cwd out = (.ok (), made) →
      MakesDirs cwd (out :: out.ancestors) store made ∧
        Touches cwd (indexPath settings out :: units.map (unitPath out)) made
          (writeUnits cwd out (byTypeName units) made).2 := by
    intro made hmade
    rw [hmade] at hmakes
    have hpaths : (byTypeName units).map (unitPath out) ⊆
        indexPath settings out :: units.map (unitPath out) :=
      List.Subset.trans ((byTypeName_perm units).map _).subset (List.subset_cons_self _ _)
    exact ⟨hmakes, (writeUnits_touches _ (hmakes.grows.tree htree)).mono hpaths⟩
  cases hcourse with
  | duplicate => exact ⟨store, .refl cwd _ store, .refl cwd _ store⟩
  | directory hdistinct hmade =>
    rw [hmade] at hmakes
    exact ⟨_, hmakes, .refl cwd _ _⟩
  | @unit made failure after hdistinct hmade hwrite =>
    have htouches := hunits made hmade
    rw [hwrite] at htouches
    exact ⟨made, htouches⟩
  | @index made tally filled failure hdistinct hmade hwrite hindex =>
    have htouches := hunits made hmade
    rw [hwrite] at htouches
    exact ⟨made, htouches⟩
  | @done made tally filled changed after hdistinct hmade hwrite hindex =>
    obtain ⟨hmakes, htouches⟩ := hunits made hmade
    rw [hwrite] at htouches
    have hlast := writeIfChanged_touches (htouches.grows.tree (hmakes.grows.tree htree)) hindex
    have hpath : [indexPath settings out] ⊆ indexPath settings out :: units.map (unitPath out) := by
      simp
    exact ⟨made, hmakes, htouches.trans (hlast.mono hpath)⟩

end Touched

/-- Units are written into the directory itself if no link is in it. -/
theorem write_staysIn (settings : BuildSettings) (hgenerated : ∀ unit ∈ units, unit.IsGenerated)
    (htree : store.IsTree) (hlinks : store.NoLinksIn cwd out) :
    StaysIn settings cwd out units store (write settings cwd out units store).2 := by
  obtain ⟨made, hmakes, htouches⟩ := write_touches settings cwd out units htree
  intro loc
  rcases htouches.only loc with hsame | ⟨path, hpath, hloc⟩
  · rcases hmakes.only loc with hold | ⟨hnone, hdir, habove⟩
    · exact .inl (hsame.trans hold)
    · exact .inr (.inl ⟨hnone, hsame.trans hdir, habove⟩)
  rw [hmakes.grows.location?_eq] at hloc
  rcases List.mem_cons.mp hpath with rfl | hpath
  · exact .inr (.inr (.inr hloc))
  obtain ⟨unit, hunit, rfl⟩ := List.mem_map.mp hpath
  obtain ⟨dir, hdir, hfile⟩ := hlinks.exists_dir (hgenerated unit hunit).isPlainName hloc
  exact .inr (.inr (.inl ⟨dir, hdir, unit, hunit, hfile⟩))

/-- A call that succeeds puts the file of each unit into the directory. -/
theorem write_placedIn {summary : WriteSummary} (hgenerated : ∀ unit ∈ units, unit.IsGenerated)
    (htree : store.IsTree) (hlinks : store.NoLinksIn cwd out)
    (h : write settings cwd out units store = (.ok summary, after)) (hunit : unit ∈ units) :
    PlacedIn settings cwd out unit store after := by
  obtain ⟨made, filled, hmakes, hfills, hindex⟩ := write_eq_ok hgenerated htree hlinks h
  have hgrows := hmakes.grows.trans hfills.grows
  have hread := hfills.filled (unitFile out unit)
    (List.mem_map_of_mem (mem_byTypeName.mpr hunit))
  obtain ⟨loc, hleads, hfile⟩ := Store.readBytes_eq_ok hread
  have hloc : store.location? cwd (unitPath out unit) = some loc := by
    rw [← hgrows.location?_eq]
    exact hleads.location?_eq
  obtain ⟨dir, hdir, rfl⟩ := hlinks.exists_dir (hgenerated unit hunit).isPlainName hloc
  have hwritten := Store.content?_eq_some_iff.mp hfile
  obtain ⟨content, hcontent⟩ := hindex.grows.files hwritten
  refine ⟨dir, content, hdir, ?_, hcontent, fun hother => ?_⟩
  · have hafter := (hgrows.trans hindex.grows).tree htree
    exact hafter dir _ (by rw [hcontent]; exact nofun)
  · rcases hindex.only (dir ++ [utf8 unit.fileName]) with hsame | ⟨file, hfile, hlocation⟩
    · rw [hcontent, hwritten] at hsame
      exact Entry.file.inj (Option.some.inj hsame)
    · rw [List.mem_singleton.mp hfile, hgrows.location?_eq] at hlocation
      exact absurd hlocation hother

/-- The file of every unit has an ordinary name, so it is written into the directory itself:
whatever a call comes to, it touches nothing else, a call that succeeds leaves the file there, and
one whose files can be written succeeds. An index of such files includes these and no others. -/
theorem ofSource_placement (settings : CodegenSettings) :
    (∀ source : SourceUnit, let unit := GeneratedUnit.ofSource source settings
      IsOrdinaryName unit.fileName ∧
        ∀ out : Path, (unitPath out unit).names = out.names ++ [utf8 unit.fileName]) ∧
    ∀ sources : List SourceUnit, let units := sources.map (GeneratedUnit.ofSource · settings)
      Code.includedNames (Code.indexSource (units.map (·.fileName))) = units.map (·.fileName) ∧
        ∀ (build : BuildSettings) (cwd : Location) (out : Path) (store : Store),
          store.IsTree → store.NoLinksIn cwd out →
            StaysIn build cwd out units store (write build cwd out units store).2 ∧
            (∀ summary after, write build cwd out units store = (.ok summary, after) →
              ∀ unit ∈ units, PlacedIn build cwd out unit store after) ∧
            ∀ made, store.makeDirs cwd out = (.ok (), made) →
              (units.map (·.typeName)).Nodup →
              (∀ unit ∈ units, made.Writable cwd (unitPath out unit)) →
              made.Writable cwd (indexPath build out) →
                ∃ summary after, write build cwd out units store = (.ok summary, after) := by
  have hgenerated : ∀ source, (GeneratedUnit.ofSource source settings).IsGenerated := fun source =>
    ⟨source, settings, rfl⟩
  refine ⟨fun source => ?_, fun sources => ?_⟩
  · exact ⟨isOrdinaryName_fileName (hgenerated source),
      fun out => names_unitPath out (hgenerated source)⟩
  intro units
  have hunits : ∀ unit ∈ units, unit.IsGenerated := List.forall_mem_map.mpr fun source _ =>
    hgenerated source
  refine ⟨Code.includedNames_indexSource ?_, fun build cwd out store htree hlinks => ⟨?_, ?_, ?_⟩⟩
  · exact List.forall_mem_map.mpr fun unit hunit c hc => (hunits unit hunit).isFileChar_of_mem hc
  · exact write_staysIn build hunits htree hlinks
  · exact fun summary after h unit hunit => write_placedIn hunits htree hlinks h hunit
  · exact fun made hmade hdistinct => write_of_writable (duplicate?_nil_eq_none_iff.mpr hdistinct)
      htree hmade

/-- A query that is named for a file two directories away. -/
def strayUnit : GeneratedUnit := .ofSource (.ofFile "q.sql" "-- name: ../../a\x22\\\nSELECT 1") {}

theorem fileName_strayUnit : strayUnit.fileName = "______a__Query.g.rs" := by decide +kernel

theorem strayUnit_placement : ∃ summary after,
    write {} [] (.ofString "out") [strayUnit] .empty = (.ok summary, after) ∧
      IsOrdinaryName strayUnit.fileName ∧
      StaysIn {} [] (.ofString "out") [strayUnit] .empty after ∧
      after.get? [utf8 "out", utf8 "______a__Query.g.rs"] =
        some (.file strayUnit.source.toByteArray) := by
  obtain ⟨hsource, hsources⟩ := ofSource_placement {}
  obtain ⟨hstays, hplaced, hsucceeds⟩ := (hsources
    [.ofFile "q.sql" "-- name: ../../a\x22\\\nSELECT 1"]).2 {} [] (.ofString "out") .empty
    Store.isTree_empty Store.linkFree_empty.noLinksIn
  obtain ⟨summary, after, h⟩ : ∃ summary after,
      write {} [] (.ofString "out") [strayUnit] .empty = (.ok summary, after) := by
    have hmade : (Store.empty.makeDirs [] (.ofString "out")).1 = .ok () := by decide +kernel
    refine hsucceeds _ (Prod.ext hmade rfl) (List.nodup_singleton _) (fun unit hunit => ?_)
      (by decide +kernel)
    obtain rfl : unit = strayUnit := List.mem_singleton.mp hunit
    rw [unitPath, fileName_strayUnit]
    decide +kernel
  obtain ⟨dir, content, hdir, -, hfile, hcontent⟩ :=
    hplaced summary after h strayUnit List.mem_cons_self
  have hout : Store.empty.location? [] (.ofString "out") = some [utf8 "out"] := by decide +kernel
  have hindex : Store.empty.location? [] (indexPath {} (.ofString "out")) =
      some [utf8 "out", utf8 "dipper_queries.rs"] := by decide +kernel
  obtain rfl := Option.some.inj (hout.symm.trans hdir)
  rw [fileName_strayUnit] at hfile hcontent
  have hother : Store.empty.location? [] (indexPath {} (.ofString "out")) ≠
      some ([utf8 "out"] ++ [utf8 "______a__Query.g.rs"]) := by
    rw [hindex]
    decide +kernel
  rw [hcontent hother] at hfile
  change StaysIn {} [] (.ofString "out") [strayUnit] .empty
    (write {} [] (.ofString "out") [strayUnit] .empty).2 at hstays
  rw [h] at hstays
  exact ⟨summary, after, h, (hsource _).1, hstays, hfile⟩

end TypedQuery.Build

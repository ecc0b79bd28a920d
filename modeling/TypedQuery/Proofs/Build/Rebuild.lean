import TypedQuery.Proofs.Build.Collect
import TypedQuery.Proofs.Build.Interleaving
import TypedQuery.Proofs.Build.Outcome
import TypedQuery.Proofs.Store.Directory
import TypedQuery.Proofs.Store.Proper

/-! Building once more: what was just built is up to date. -/
namespace TypedQuery.Build

variable {settings : BuildSettings} {cwd : Location} {out path : Path} {text : String}
  {units : List GeneratedUnit} {store after : Store} {summary : WriteSummary} {changed : Bool}

section Proper

variable (hproper : store.IsProper) (hlinks : store.LinkFree)
include hproper hlinks

theorem writeIfChanged_isProper (h : writeIfChanged cwd store path text = .ok (changed, after)) :
    after.IsProper ∧ after.LinkFree := by
  have hgrows := (writeIfChanged_ok hproper.tree h).1.grows
  refine ⟨?_, hgrows.linkFree hlinks⟩
  unfold writeIfChanged at h
  split at h
  · cases h
    exact hproper
  · split at h
    · next hwrite =>
      cases h
      exact Store.writeBytes_isProper hproper hlinks hwrite
    · cases h

theorem writeUnits_isProper {result : Except Failure Tally}
    (h : writeUnits cwd out units store = (result, after)) : after.IsProper ∧ after.LinkFree := by
  induction units generalizing store result with
  | nil =>
    cases h
    exact ⟨hproper, hlinks⟩
  | cons unit rest ih =>
    cases hstep : writeIfChanged cwd store (unitPath out unit) unit.source with
    | error failure =>
      rw [(writeUnits_cons_error rest hstep).1] at h
      cases h
      exact ⟨hproper, hlinks⟩
    | ok step =>
      obtain ⟨hproper, hlinks⟩ := writeIfChanged_isProper hproper hlinks hstep
      rw [(writeUnits_cons_ok rest hstep).1] at h
      have hrest : (writeUnits cwd out rest step.2).2 = after := congrArg Prod.snd h
      exact ih hproper hlinks (Prod.ext rfl hrest)

/-- Whatever writing comes to, it leaves a proper file system without links. -/
theorem write_isProper {result : Except Failure WriteSummary}
    (h : write settings cwd out units store = (result, after)) :
    after.IsProper ∧ after.LinkFree := by
  have hcourse := course_write settings cwd out units store
  have hmadeProper := Store.makeDirs_isProper hproper cwd out
  have hmadeLinks := (Store.makeDirs_makesDirs store cwd out).grows.linkFree hlinks
  rw [h] at hcourse
  cases hcourse with
  | duplicate => exact ⟨hproper, hlinks⟩
  | directory _ hmade =>
    rw [hmade] at hmadeProper hmadeLinks
    exact ⟨hmadeProper, hmadeLinks⟩
  | unit _ hmade hunits | index _ hmade hunits _ =>
    rw [hmade] at hmadeProper hmadeLinks
    exact writeUnits_isProper hmadeProper hmadeLinks hunits
  | done _ hmade hunits hindex =>
    rw [hmade] at hmadeProper hmadeLinks
    obtain ⟨hproper, hlinks⟩ := writeUnits_isProper hmadeProper hmadeLinks hunits
    exact writeIfChanged_isProper hproper hlinks hindex

end Proper

section Again

theorem writeIfChanged_of_current (h : store.readBytes cwd path = .ok text.toByteArray) :
    writeIfChanged cwd store path text = .ok (false, store) := by
  rw [writeIfChanged, if_pos (Store.readText_toOption_eq_some_iff.mpr (Store.readBytes_eq_ok h))]

theorem writeUnits_of_current
    (h : ∀ unit ∈ units, store.readBytes cwd (unitPath out unit) = .ok unit.source.toByteArray) :
    writeUnits cwd out units store = (.ok ⟨0, units.length⟩, store) := by
  induction units with
  | nil => rfl
  | cons unit rest ih =>
    obtain ⟨hunit, hrest⟩ := List.forall_mem_cons.mp h
    rw [(writeUnits_cons_ok rest (writeIfChanged_of_current hunit)).1, ih hrest]
    rfl

/-- What was written is not written again. -/
theorem write_again (hgenerated : ∀ unit ∈ units, unit.IsGenerated) (htree : store.IsTree)
    (hlinks : store.NoLinksIn cwd out)
    (hindex : ∀ unit ∈ units, store.Apart cwd (indexPath settings out) (unitPath out unit))
    (h : write settings cwd out units store = (.ok summary, after)) :
    write settings cwd out units after = (.ok ⟨0, units.length, summary.index⟩, after) := by
  have hreached := (write_ok hgenerated htree hlinks h).1
  obtain ⟨_, _, hfills⟩ := write_fills hgenerated htree hlinks hindex
  rw [filledBy, h, hreached] at hfills
  have hunits : ∀ unit ∈ byTypeName units,
      after.readBytes cwd (unitPath out unit) = .ok unit.source.toByteArray := fun unit hunit =>
    hfills.filled (unitFile out unit) (List.mem_append_left _ (List.mem_map_of_mem hunit))
  have hindexed : after.readBytes cwd (indexPath settings out) =
      .ok (Code.indexSource ((byTypeName units).map (·.fileName))).toByteArray :=
    hfills.filled (indexFile settings out units)
      (List.mem_append_right _ (List.mem_singleton_self _))
  have hcourse := course_write settings cwd out units store
  rw [h] at hcourse
  cases hcourse with
  | @done made tally filled changed _ hdistinct hmade hwritten hlast =>
    have hmakes := Store.makeDirs_makesDirs store cwd out
    rw [hmade] at hmakes
    have hfilled := writeUnits_fills (hmakes.grows.tree htree)
      (byTypeName_pairwise_apart hgenerated (hmakes.grows.noLinksIn hlinks) hdistinct)
    rw [hwritten] at hfilled
    have hindexFills := (writeIfChanged_ok (hfilled.grows.tree (hmakes.grows.tree htree)) hlast).1
    rw [write, hdistinct, Store.makeDirs_again hmade (hfilled.grows.trans hindexFills.grows)]
    simp only [writeUnits_of_current hunits, writeIfChanged_of_current hindexed,
      (byTypeName_perm units).length_eq]

end Again

section Queries

variable {host : Host} {queries : Path} {queriesLoc outLoc : Location} {indexName : Name}

theorem location?_of_resolve {loc : Location} (h : store.resolve cwd path = .ok loc) :
    store.location? cwd path = some loc := by
  obtain ⟨left, hfollow⟩ := (Store.resolve_eq_ok_iff.mp h).2.follow_eq
  rw [Store.location?, hfollow]
  rfl

theorem apart_of_location? {a b : Path} {loc loc' : Location}
    (ha : store.location? cwd a = some loc) (hb : store.location? cwd b = some loc')
    (hne : loc ≠ loc') : store.Apart cwd a b := by
  intro found hfound hfound'
  rw [ha] at hfound
  rw [hb] at hfound'
  exact hne (Option.some.inj (hfound.trans hfound'.symm))

theorem location?_unitPath {unit : GeneratedUnit} (hgenerated : unit.IsGenerated)
    (hlinks : store.LinkFree) (hout : store.location? cwd out = some outLoc) :
    store.location? cwd (unitPath out unit) = some (outLoc ++ [utf8 unit.fileName]) :=
  Store.location?_join hgenerated.isPlainName hout fun target => hlinks _ target

theorem apart_indexPath (hgenerated : ∀ unit ∈ units, unit.IsGenerated) (hlinks : store.LinkFree)
    (hout : store.location? cwd out = some outLoc)
    (hindex : store.location? cwd (indexPath settings out) = some (outLoc ++ [indexName]))
    (hname : ∀ unit ∈ units, utf8 unit.fileName ≠ indexName) :
    ∀ unit ∈ units, store.Apart cwd (indexPath settings out) (unitPath out unit) := by
  intro unit hunit
  refine apart_of_location? hindex (location?_unitPath (hgenerated unit hunit) hlinks hout) ?_
  exact fun hsame => hname unit hunit (List.cons.inj (List.append_cancel_left hsame)).1.symm

section Beside

variable (hgenerated : ∀ unit ∈ units, unit.IsGenerated) (htree : store.IsTree)
  (hlinks : store.LinkFree) (hout : store.location? cwd out = some outLoc)
  (hindex : store.location? cwd (indexPath settings out) = some (outLoc ++ [indexName]))
  (hname : ∀ unit ∈ units, utf8 unit.fileName ≠ indexName)
  (h : (write settings cwd out units store).2 = after)
include hgenerated htree hlinks hout hindex hname h

/-- Writing makes directories on the way, and all else that it changes is in the last of them. -/
theorem write_changes (loc : Location) : after.get? loc = store.get? loc ∨
    (store.get? loc = none ∧ after.get? loc = some .dir ∧
      ∃ above ∈ out :: out.ancestors, store.location? cwd above = some loc) ∨
    ∃ name, loc = outLoc ++ [name] := by
  obtain ⟨made, hmakes, hfills⟩ := write_fills hgenerated htree hlinks.noLinksIn
    (apart_indexPath hgenerated hlinks hout hindex hname)
  rw [h] at hfills
  rcases hfills.only loc with hsame | ⟨file, hfile, hloc⟩
  · rw [hsame]
    exact (hmakes.only loc).imp_right .inl
  · rw [hmakes.grows.location?_eq] at hloc
    refine .inr (.inr ?_)
    rcases mem_filledBy hfile with ⟨unit, hreached, rfl⟩ | rfl
    · have hmem := reachedBy_subset cwd out units store hreached
      have hunit := location?_unitPath (hgenerated unit hmem) hlinks hout
      exact ⟨_, Option.some.inj (hloc.symm.trans hunit)⟩
    · exact ⟨_, Option.some.inj (hloc.symm.trans hindex)⟩

/-- Writing beside the queries makes at most directories among them. -/
theorem onlyNewDirs_write (hbeside : ¬ queriesLoc <+: outLoc ∧ ¬ outLoc <+: queriesLoc)
    (hshort : ∀ names, EndsInSql names → store.get? (queriesLoc ++ names) = none →
      after.get? (queriesLoc ++ names) = some .dir →
      (queries.descend names).bytes.length < Path.lengthLimit) :
    OnlyNewDirs store after queries queriesLoc := by
  intro names
  rcases write_changes hgenerated htree hlinks hout hindex hname h (queriesLoc ++ names) with
    hsame | ⟨hnone, hdir, -⟩ | ⟨name, hloc⟩
  · exact .inl hsame
  · exact .inr ⟨hnone, hdir, fun hsql => hshort names hsql hnone hdir⟩
  · exfalso
    have hbelow : queriesLoc <+: outLoc ++ [name] := ⟨names, hloc⟩
    rcases List.prefix_concat_iff.mp hbelow with heq | hwithin
    · exact hbeside.2 ⟨[name], heq.symm⟩
    · exact hbeside.1 hwithin

end Beside

/-- Below a directory that is new itself there are only directories. -/
theorem collect_of_new (htree : host.store.IsTree) (htidy : after.IsTidyBelow queriesLoc)
    (hresolve : after.resolve host.cwd queries = .ok queriesLoc)
    (hget : after.get? queriesLoc = some .dir) (hnew : host.store.get? queriesLoc = none)
    (honly : OnlyNewDirs host.store after queries queriesLoc) :
    collect { host with store := after } queries = .ok [] := by
  have hnone : ∀ names, host.store.get? (queriesLoc ++ names) = none := by
    intro names
    induction names using List.reverseRecOn with
    | nil => rwa [List.append_nil]
    | append_singleton names name ih =>
      by_contra hthere
      rw [← List.append_assoc] at hthere
      rw [htree _ name hthere] at ih
      cases ih
  obtain ⟨files, hpaths, -, hmem⟩ :=
    @exists_files { host with store := after } queries queriesLoc htidy hresolve hget
  have hempty : files = [] := by
    rw [List.eq_nil_iff_forall_not_mem]
    intro names hnames
    have hlisted := (hmem names).mp hnames
    rcases honly names with hold | ⟨-, hdir, hshort⟩
    · exact hlisted.there (hold.trans (hnone names))
    · exact hlisted.not_entered ⟨hshort hlisted.named, hdir⟩
  rw [collect_of_files (isDir_of_get? hresolve hget) hpaths, hempty]
  rfl

/-- New directories are nothing to collect. -/
theorem collect_of_grows (hproper : host.store.IsProper) (hlinks : host.store.LinkFree)
    (hproper' : after.IsProper) (hgrows : Store.Grows host.store after)
    (hloc : host.store.location? host.cwd queries = some queriesLoc)
    (honly : OnlyNewDirs host.store after queries queriesLoc)
    (hopen : host.store.get? queriesLoc = some .dir → after.isDir host.cwd queries = true →
      host.isDir queries = true) :
    collect { host with store := after } queries = collect host queries := by
  have htidy := hproper.isTidyBelow (hlinks.noLinksBelow queriesLoc)
  have htidy' := hproper'.isTidyBelow ((hgrows.linkFree hlinks).noLinksBelow queriesLoc)
  by_cases hisdir : host.isDir queries = true
  · obtain ⟨loc, hresolve, hget⟩ := Store.isDir_iff.mp hisdir
    obtain rfl : loc = queriesLoc :=
      Option.some.inj ((location?_of_resolve hresolve).symm.trans hloc)
    exact OnlyNewDirs.collect_eq honly htidy htidy' hresolve (hgrows.resolve_eq hresolve) hget
  · rw [collect_of_not_isDir hisdir]
    by_cases hisdir' : after.isDir host.cwd queries = true
    · obtain ⟨loc, hresolve, hget⟩ := Store.isDir_iff.mp hisdir'
      have hsame := location?_of_resolve hresolve
      rw [hgrows.location?_eq, hloc] at hsame
      obtain rfl := Option.some.inj hsame
      refine collect_of_new hproper.tree htidy' hresolve hget ?_ honly
      have hroot := honly []
      rw [List.append_nil, hget] at hroot
      exact (hroot.resolve_left fun hold => hisdir (hopen hold.symm hisdir')).1
    · exact collect_of_not_isDir hisdir'

end Queries

section Script

variable {config : Settings} {host : Host} {queries : Path} {cancelled again : Nat → Bool}
  {failure : Failure}

/-- A build that succeeds has read all queries and written the units of all of them. -/
theorem generateInto_eq_ok
    (h : generateInto config host queries out cancelled = (.ok summary, after)) :
    ∃ files, collect host queries = .ok files ∧
      write config.build host.cwd out (files.map (.ofSource · config.codegen)) host.store =
        (.ok summary, after) := by
  cases hcollect : collect host queries with
  | error failure =>
    rw [generateInto_of_error hcollect] at h
    cases h
  | ok files =>
    rw [generateInto_of_ok hcollect] at h
    have hall : generateAll config.codegen cancelled files ≠ .error .cancelled := by
      intro hcancelled
      rw [hcancelled] at h
      cases h
    rw [generateAll_of_not_cancelled hall] at h
    exact ⟨files, rfl, h⟩

theorem isGenerated_map (config : CodegenSettings) (files : List SourceUnit) :
    ∀ unit ∈ files.map (GeneratedUnit.ofSource · config), unit.IsGenerated := by
  intro unit hunit
  obtain ⟨file, _, rfl⟩ := List.mem_map.mp hunit
  exact ⟨file, config, rfl⟩

theorem generateAll_of_no {units : List SourceUnit}
    (h : ∀ check < units.length, cancelled check = false) :
    generateAll config.codegen cancelled units = .ok (units.map (.ofSource · config.codegen)) := by
  rw [← generateAll_never]
  apply generateAll_congr
  intro check hcheck
  exact h check (Nat.lt_of_lt_of_le hcheck (checksFrom_le cancelled 0 units.length))

end Script

/-- A build that is run again at once finds all as it should be and changes nothing, if the code is
written beside the queries and the first run does not make the way to them. -/
theorem generateWith_again (settings : Settings) (host : Host) (manifest out queries : Path)
    (cancelled again : Nat → Bool) (run : Run) (summary : WriteSummary)
    (queriesLoc outLoc : Location) (indexName : Name)
    (hproper : host.store.IsProper) (hlinks : host.store.LinkFree)
    (hqueries : queries = manifest.join (.ofString settings.build.queriesDir))
    (hqueriesLoc : host.store.location? host.cwd queries = some queriesLoc)
    (houtLoc : host.store.location? host.cwd out = some outLoc)
    (hbeside : ¬ queriesLoc <+: outLoc ∧ ¬ outLoc <+: queriesLoc)
    (hindex : host.store.location? host.cwd (indexPath settings.build out) =
      some (outLoc ++ [indexName]))
    (hname : ∀ files, collect host queries = .ok files → ∀ file ∈ files,
      utf8 (GeneratedUnit.ofSource file settings.codegen).fileName ≠ indexName)
    (hrun : run = generateWith settings host manifest out cancelled)
    (hok : run.result = .ok summary)
    (hopen : host.store.get? queriesLoc = some .dir → run.store.isDir host.cwd queries = true →
      host.isDir queries = true)
    (hshort : ∀ names, EndsInSql names → host.store.get? (queriesLoc ++ names) = none →
      run.store.get? (queriesLoc ++ names) = some .dir →
      (queries.descend names).bytes.length < Path.lengthLimit)
    (hagain : ∀ check < summary.written + summary.unchanged, again check = false) :
    ∃ files, collect host queries = .ok files ∧
      files.length = summary.written + summary.unchanged ∧
      generateWith settings { host with store := run.store } manifest out again =
        { run with result := .ok ⟨0, files.length, summary.index⟩ } := by
  have hfirst : generateInto settings host queries out cancelled = (.ok summary, run.store) := by
    rw [hrun] at hok ⊢
    rw [hqueries]
    exact Prod.ext hok rfl
  obtain ⟨files, hcollect, hwrite⟩ := generateInto_eq_ok hfirst
  have hgenerated := isGenerated_map settings.codegen files
  have hname : ∀ unit ∈ files.map (GeneratedUnit.ofSource · settings.codegen),
      utf8 unit.fileName ≠ indexName := by
    intro unit hunit
    obtain ⟨file, hfile, rfl⟩ := List.mem_map.mp hunit
    exact hname files hcollect file hfile
  have honly := onlyNewDirs_write hgenerated hproper.tree hlinks houtLoc hindex hname
    (congrArg Prod.snd hwrite) hbeside hshort
  have hapart := apart_indexPath hgenerated hlinks houtLoc hindex hname
  have hgrows : Store.Grows host.store run.store := by
    obtain ⟨made, hmakes, hfills⟩ :=
      write_fills hgenerated hproper.tree hlinks.noLinksIn hapart
    rw [hwrite] at hfills
    exact hmakes.grows.trans hfills.grows
  have hcollect' : collect { host with store := run.store } queries = .ok files := by
    rw [collect_of_grows hproper hlinks (write_isProper hproper hlinks hwrite).1 hgrows hqueriesLoc
      honly hopen, hcollect]
  have htotal := (write_ok hgenerated hproper.tree hlinks.noLinksIn hwrite).2.2.2
  rw [List.length_map] at htotal
  have hagain' : generateInto settings { host with store := run.store } queries out again =
      (.ok ⟨0, files.length, summary.index⟩, run.store) := by
    have hwritten := write_again hgenerated hproper.tree hlinks.noLinksIn hapart hwrite
    rw [List.length_map] at hwritten
    rw [generateInto_of_ok hcollect', generateAll_of_no (htotal ▸ hagain)]
    exact hwritten
  refine ⟨files, hcollect, htotal.symm, ?_⟩
  have houtput : run.output = [s!"cargo:rerun-if-changed={queries.display}"] := by
    rw [hrun, hqueries]
    rfl
  rw [generateWith, ← hqueries, hagain', houtput]

/-- Two query files, in the directory where a build looks for them. -/
def queriesHost : Host where
  store := ((Store.empty.set [utf8 "queries"] .dir).set [utf8 "queries", utf8 "a.sql"]
    (.file "SELECT 1".toByteArray)).set [utf8 "queries", utf8 "aQuery1.sql"]
      (.file "SELECT 2".toByteArray)
  cwd := []
  environment := []

theorem queriesHost_isProper : queriesHost.store.IsProper := by
  have hdir : ∀ target, Entry.dir ≠ .link target := nofun
  have hfile : ∀ content target, Entry.file content ≠ .link target := nofun
  have hqueries : IsEntryName (utf8 "queries") := by decide +kernel
  have ha : IsEntryName (utf8 "a.sql") := by decide +kernel
  have haQuery : IsEntryName (utf8 "aQuery1.sql") := by decide +kernel
  have hfirst := Store.isProper_empty.set [] (Store.get?_nil _) hqueries hdir
    (.inl (by decide +kernel))
  have hsecond := hfirst.set [utf8 "queries"] (by decide +kernel) ha
    (hfile "SELECT 1".toByteArray) (.inl (by decide +kernel))
  exact hsecond.set [utf8 "queries"] (by decide +kernel) haQuery nofun (.inl (by decide +kernel))

theorem queriesHost_linkFree : queriesHost.store.LinkFree := by
  have hdir : ∀ target, Entry.dir ≠ .link target := nofun
  have hfile : ∀ content target, Entry.file content ≠ .link target := nofun
  exact ((Store.linkFree_empty.set (by simp) hdir).set (by simp) (hfile _)).set (by simp) nofun

theorem collect_queriesHost : collect queriesHost (.ofString "queries") =
    .ok [.ofFile "a.sql" "SELECT 1", .ofFile "aQuery1.sql" "SELECT 2"] := by
  have hisdir : queriesHost.isDir (.ofString "queries") = true := by decide +kernel
  have hpaths : sqlPaths queriesHost (.ofString "queries") =
      [.ofString "queries/a.sql", .ofString "queries/aQuery1.sql"] := by decide +kernel
  have hsorted : (sqlPaths queriesHost (.ofString "queries")).mergeSort precedes =
      sqlPaths queriesHost (.ofString "queries") := by
    rw [hpaths]
    apply List.mergeSort_of_pairwise
    decide +kernel
  rw [collect, if_pos hisdir, hsorted, hpaths]
  decide +kernel

theorem write_queriesHost : ∃ summary after,
    write {} [] (.ofString "out") prefixUnits queriesHost.store = (.ok summary, after) :=
  write_prefixUnits_of_writable queriesHost_isProper.tree (by decide +kernel) (by decide +kernel)

theorem prefixUnits_fileName_ne :
    ∀ unit ∈ prefixUnits, utf8 unit.fileName ≠ utf8 "dipper_queries.rs" := by
  intro unit hunit hsame
  have hmem : unit.fileName ∈ prefixUnits.map (·.fileName) := List.mem_map_of_mem hunit
  rw [prefixUnits_fileName, utf8_inj.mp hsame] at hmem
  revert hmem
  decide

theorem location?_out_queriesHost :
    queriesHost.store.location? [] (.ofString "out") = some [utf8 "out"] := by decide +kernel

theorem location?_indexPath_queriesHost :
    queriesHost.store.location? [] (indexPath {} (.ofString "out")) =
      some ([utf8 "out"] ++ [utf8 "dipper_queries.rs"]) := by decide +kernel

/-- Only `out` is made. -/
theorem get?_queries_of_write
    (h : write {} [] (.ofString "out") prefixUnits queriesHost.store = (.ok summary, after))
    (names : List Name) : after.get? ([utf8 "queries"] ++ names) =
      queriesHost.store.get? ([utf8 "queries"] ++ names) := by
  have hne : utf8 "queries" ≠ utf8 "out" := by decide +kernel
  rcases write_changes prefixUnits_isGenerated queriesHost_isProper.tree queriesHost_linkFree
    location?_out_queriesHost location?_indexPath_queriesHost prefixUnits_fileName_ne
    (congrArg Prod.snd h) ([utf8 "queries"] ++ names) with
    hsame | ⟨-, -, above, habove, hloc⟩ | ⟨name, hloc⟩
  · exact hsame
  · exfalso
    have hancestors : (Path.ofString "out").ancestors = [⟨[]⟩] := by decide +kernel
    rw [hancestors] at habove
    rcases List.mem_pair.mp habove with rfl | rfl
    · exact hne (List.cons.inj (Option.some.inj (hloc.symm.trans location?_out_queriesHost))).1
    · have hroot : queriesHost.store.location? [] ⟨[]⟩ = some [] := by decide +kernel
      cases hroot.symm.trans hloc
  · exact absurd (List.cons.inj hloc).1 hne

theorem generateWith_again_queriesHost : ∃ run summary,
    run = generateWith {} queriesHost ⟨[]⟩ (.ofString "out") (fun _ => false) ∧
    run.result = .ok summary ∧ ∃ files, collect queriesHost (.ofString "queries") = .ok files ∧
      files.length = summary.written + summary.unchanged ∧
      generateWith {} { queriesHost with store := run.store } ⟨[]⟩ (.ofString "out")
        (fun _ => false) = { run with result := .ok ⟨0, files.length, summary.index⟩ } := by
  obtain ⟨summary, after, hwrite⟩ := write_queriesHost
  have hqueries : Path.ofString "queries" = (Path.mk []).join (.ofString "queries") := by
    decide +kernel
  have hinto : generateInto {} queriesHost (.ofString "queries") (.ofString "out")
      (fun _ => false) = (.ok summary, after) := by
    rw [generateInto_of_ok collect_queriesHost, generateAll_never]
    exact hwrite
  rw [hqueries] at hinto
  have hresult : (generateWith {} queriesHost ⟨[]⟩ (.ofString "out") fun _ => false).result =
      .ok summary := congrArg Prod.fst hinto
  have hstore : (generateWith {} queriesHost ⟨[]⟩ (.ofString "out") fun _ => false).store = after :=
    congrArg Prod.snd hinto
  have hname : ∀ files, collect queriesHost (.ofString "queries") = .ok files → ∀ file ∈ files,
      utf8 (GeneratedUnit.ofSource file {}).fileName ≠ utf8 "dipper_queries.rs" := by
    intro files hfiles file hfile
    obtain rfl := Except.ok.inj (collect_queriesHost.symm.trans hfiles)
    exact prefixUnits_fileName_ne _ (List.mem_map_of_mem (f := (GeneratedUnit.ofSource · {})) hfile)
  have hshort : ∀ names, EndsInSql names →
      queriesHost.store.get? ([utf8 "queries"] ++ names) = none →
      (generateWith {} queriesHost ⟨[]⟩ (.ofString "out") fun _ => false).store.get?
        ([utf8 "queries"] ++ names) = some .dir →
      ((Path.ofString "queries").descend names).bytes.length < Path.lengthLimit := by
    intro names _ hnone hdir
    rw [hstore, get?_queries_of_write hwrite, hnone] at hdir
    cases hdir
  exact ⟨_, summary, rfl, hresult, generateWith_again {} queriesHost ⟨[]⟩ (.ofString "out")
    (.ofString "queries") _ _ _ summary [utf8 "queries"] [utf8 "out"] (utf8 "dipper_queries.rs")
    queriesHost_isProper queriesHost_linkFree hqueries (by decide +kernel) location?_out_queriesHost
    (by decide +kernel) location?_indexPath_queriesHost hname rfl hresult
    (fun _ _ => by decide +kernel) hshort fun _ _ => rfl⟩

/-- A query in a directory that is found on a way through one that is not there yet. -/
def detourHost : Host where
  store := (Store.empty.set [utf8 "q"] .dir).set [utf8 "q", utf8 "a.sql"]
    (.file "select 1".toByteArray)
  cwd := []
  environment := []

def detourSettings : Settings := { build := { queriesDir := "x/../q" } }

def detour : Path := (Path.ofString ".").join (.ofString "x/../q")

/-- What the first build leaves: it makes the way, after it has looked for queries. -/
def openedStore : Store :=
  (detourHost.store.set [utf8 "x"] .dir).set [utf8 "x", utf8 "dipper_queries.rs"]
    (.file (Code.indexSource []).toByteArray)

theorem write_detour : write detourSettings.build [] (.ofString "x") [] detourHost.store =
    (.ok ⟨0, 0, .ofString "x/dipper_queries.rs"⟩, openedStore) := by
  have hsorted : byTypeName [] = [] := List.mergeSort_nil
  simp only [write, duplicate?, hsorted, List.map_nil]
  refine Prod.ext ?_ (congrArg Store.mk ?_)
  · decide +kernel
  · decide +kernel

theorem collect_openedStore : collect { detourHost with store := openedStore } detour =
    .ok [.ofFile "a.sql" "select 1"] := by
  have hisdir : Host.isDir { detourHost with store := openedStore } detour = true := by
    decide +kernel
  have hpaths : sqlPaths { detourHost with store := openedStore } detour =
      [.ofString "./x/../q/a.sql"] := by decide +kernel
  rw [collect, if_pos hisdir, hpaths, List.mergeSort_singleton]
  decide +kernel

theorem not_unchanged_detour : detourHost.store.IsProper ∧ detourHost.store.LinkFree ∧
    detourHost.store.location? [] detour = some [utf8 "q"] ∧
    detourHost.store.location? [] (.ofString "x") = some [utf8 "x"] ∧
    ¬ [utf8 "q"] <+: [utf8 "x"] ∧ ¬ [utf8 "x"] <+: [utf8 "q"] ∧
    detourHost.store.location? [] (indexPath detourSettings.build (.ofString "x")) =
      some [utf8 "x", utf8 "dipper_queries.rs"] ∧
    ∃ run summary,
      run = generateWith detourSettings detourHost (.ofString ".") (.ofString "x")
        (fun _ => false) ∧
      run.result = .ok summary ∧
      (generateWith detourSettings { detourHost with store := run.store } (.ofString ".")
        (.ofString "x") fun _ => false).result ≠
          .ok ⟨0, summary.written + summary.unchanged, summary.index⟩ := by
  have hdir : ∀ target, Entry.dir ≠ .link target := nofun
  have hproper : detourHost.store.IsProper := by
    have hq : IsEntryName (utf8 "q") := by decide +kernel
    have ha : IsEntryName (utf8 "a.sql") := by decide +kernel
    have hfirst := Store.isProper_empty.set [] (Store.get?_nil _) hq hdir (.inl (by decide +kernel))
    exact hfirst.set [utf8 "q"] (by decide +kernel) ha nofun (.inl (by decide +kernel))
  have hlinks : detourHost.store.LinkFree :=
    (Store.linkFree_empty.set (by simp) hdir).set (by simp) nofun
  refine ⟨hproper, hlinks, by decide +kernel, by decide +kernel, by decide +kernel,
    by decide +kernel, by decide +kernel, ?_⟩
  have hcollect : collect detourHost detour = .ok [] := by decide +kernel
  have hinto : generateInto detourSettings detourHost detour (.ofString "x") (fun _ => false) =
      (.ok ⟨0, 0, .ofString "x/dipper_queries.rs"⟩, openedStore) := by
    rw [generateInto_of_ok hcollect, generateAll_never]
    exact write_detour
  refine ⟨_, _, rfl, congrArg Prod.fst hinto, ?_⟩
  have hstore : (generateWith detourSettings detourHost (.ofString ".") (.ofString "x")
      fun _ => false).store = openedStore := congrArg Prod.snd hinto
  rw [hstore]
  intro hagain
  obtain ⟨files, hfiles, hwrite⟩ := generateInto_eq_ok (Prod.ext hagain rfl)
  obtain rfl := Except.ok.inj (collect_openedStore.symm.trans hfiles)
  obtain ⟨hproper', hlinks'⟩ := write_isProper hproper hlinks write_detour
  have htotal := (write_ok (isGenerated_map _ _) hproper'.tree hlinks'.noLinksIn hwrite).2.2.2
  cases htotal

end TypedQuery.Build

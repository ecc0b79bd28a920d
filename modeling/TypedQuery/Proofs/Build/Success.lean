import TypedQuery.Proofs.Build.Call
import TypedQuery.Proofs.Store.Writable

/-! When a call of `write` succeeds, and where one stops that finds a directory in its way. -/
namespace TypedQuery.Build

variable {settings : BuildSettings} {cwd : Location} {out path : Path}
  {units front later : List GeneratedUnit} {unit : GeneratedUnit} {store made : Store}

theorem writeIfChanged_of_writable (h : store.Writable cwd path) (text : String) :
    ∃ changed after, writeIfChanged cwd store path text = .ok (changed, after) := by
  unfold writeIfChanged
  split
  · exact ⟨_, _, rfl⟩
  · obtain ⟨after, hwrite⟩ := h.exists_writeBytes text.toByteArray
    exact ⟨true, after, by rw [Store.writeText, hwrite]⟩

theorem writeIfChanged_of_isDir (htrailing : path.hasTrailingSlash = false)
    (h : store.isDir cwd path = true) (text : String) :
    writeIfChanged cwd store path text = .error (.io path .isADirectory) := by
  have hread : (store.readText cwd path).toOption = none := by
    rw [Store.readText, Store.readBytes_of_isDir h]
    rfl
  rw [writeIfChanged, hread, if_neg (Option.some_ne_none text).symm, Store.writeText,
    Store.writeBytes_of_isDir htrailing h]

/-- Files that can be written are, and others still can be. -/
theorem writeUnits_of_writable (htree : store.IsTree)
    (h : ∀ unit ∈ units, store.Writable cwd (unitPath out unit)) :
    ∃ tally filled, writeUnits cwd out units store = (.ok tally, filled) ∧
      ∀ path, store.Writable cwd path → filled.Writable cwd path := by
  induction units generalizing store with
  | nil => exact ⟨_, _, rfl, fun _ hpath => hpath⟩
  | cons unit rest ih =>
    obtain ⟨hunit, hrest⟩ := List.forall_mem_cons.mp h
    obtain ⟨changed, next, hstep⟩ := writeIfChanged_of_writable hunit unit.source
    have hfills := (writeIfChanged_ok htree hstep).1
    obtain ⟨tally, filled, hwrite, hstays⟩ := ih (hfills.grows.tree htree)
      fun other hother => (hrest other hother).fills hfills
    refine ⟨tally.add changed, filled, ?_, fun path hpath => hstays path (hpath.fills hfills)⟩
    rw [(writeUnits_cons_ok rest hstep).1, hwrite]
    rfl

/-- A call succeeds if its directory can be made and its files can be written there. -/
theorem write_of_writable (hdistinct : duplicate? [] units = none) (htree : store.IsTree)
    (hmade : store.makeDirs cwd out = (.ok (), made))
    (hunits : ∀ unit ∈ units, made.Writable cwd (unitPath out unit))
    (hindex : made.Writable cwd (indexPath settings out)) :
    ∃ summary after, write settings cwd out units store = (.ok summary, after) := by
  have hmakes := Store.makeDirs_makesDirs store cwd out
  rw [hmade] at hmakes
  obtain ⟨tally, filled, hwrite, hstays⟩ := writeUnits_of_writable (hmakes.grows.tree htree)
    fun unit hunit => hunits unit (mem_byTypeName.mp hunit)
  obtain ⟨changed, after, hlast⟩ := writeIfChanged_of_writable (hstays _ hindex)
    (Code.indexSource ((byTypeName units).map (·.fileName)))
  refine ⟨⟨tally.written, tally.unchanged, indexPath settings out⟩, after, ?_⟩
  simp only [write, hdistinct, hmade, hwrite, hlast]

/-- A directory in the way of a unit's file stops the call there. -/
theorem writeUnits_of_isDir (htree : store.IsTree)
    (hfront : ∀ earlier ∈ front, store.Writable cwd (unitPath out earlier))
    (hunit : unit.IsGenerated) (hdir : store.isDir cwd (unitPath out unit) = true) :
    (writeUnits cwd out (front ++ unit :: later) store).1 =
      .error (.io (unitPath out unit) .isADirectory) := by
  induction front generalizing store with
  | nil =>
    have htrailing : (unitPath out unit).hasTrailingSlash = false :=
      Path.hasTrailingSlash_join hunit.isPlainName
    have hstep := writeIfChanged_of_isDir htrailing hdir unit.source
    rw [List.nil_append, (writeUnits_cons_error later hstep).1]
  | cons earlier rest ih =>
    obtain ⟨hearlier, hrest⟩ := List.forall_mem_cons.mp hfront
    obtain ⟨changed, next, hstep⟩ := writeIfChanged_of_writable hearlier earlier.source
    have hfills := (writeIfChanged_ok htree hstep).1
    have hlater := ih (hfills.grows.tree htree)
      (fun other hother => (hrest other hother).fills hfills) (hfills.grows.isDir hdir)
    rw [List.cons_append, (writeUnits_cons_ok _ hstep).1, hlater]
    rfl

theorem write_of_isDir (hdistinct : duplicate? [] units = none) (htree : store.IsTree)
    (hmade : store.makeDirs cwd out = (.ok (), made))
    (hsorted : byTypeName units = front ++ unit :: later)
    (hfront : ∀ earlier ∈ front, made.Writable cwd (unitPath out earlier))
    (hunit : unit.IsGenerated) (hdir : made.isDir cwd (unitPath out unit) = true) :
    (write settings cwd out units store).1 = .error (.io (unitPath out unit) .isADirectory) := by
  have hmakes := Store.makeDirs_makesDirs store cwd out
  rw [hmade] at hmakes
  have hfailed : (writeUnits cwd out (byTypeName units) made).1 =
      .error (.io (unitPath out unit) .isADirectory) := by
    rw [hsorted]
    exact writeUnits_of_isDir (hmakes.grows.tree htree) hfront hunit hdir
  rcases hwrite : writeUnits cwd out (byTypeName units) made with ⟨result, filled⟩
  rw [hwrite] at hfailed
  obtain rfl : result = _ := hfailed
  simp only [write, hdistinct, hmade, hwrite]

end TypedQuery.Build

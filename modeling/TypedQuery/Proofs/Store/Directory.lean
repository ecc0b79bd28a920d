import TypedQuery.Proofs.Store.Change
import TypedQuery.Proofs.Store.Tree

/-! Directories that were made stay, and making them again changes nothing. -/
namespace TypedQuery.Store

variable {store before after made : Store} {cwd loc : Location} {path : Path}

section Growth

theorem Grows.resolve_eq (hgrows : Grows before after) (h : before.resolve cwd path = .ok loc) :
    after.resolve cwd path = .ok loc := by
  obtain ⟨hfault, hwalk⟩ := resolve_eq_ok_iff.mp h
  exact resolve_eq_ok_iff.mpr ⟨hfault, hwalk.grows_found hgrows⟩

theorem Grows.isDir (hgrows : Grows before after) (h : before.isDir cwd path = true) :
    after.isDir cwd path = true := by
  obtain ⟨loc, hresolve, hdir⟩ := isDir_iff.mp h
  exact isDir_iff.mpr ⟨loc, hgrows.resolve_eq hresolve, hgrows.dirs hdir⟩

end Growth

section Making

variable {links : Nat} {start : Location}

/-- A path to a directory may end in a slash. -/
theorem Walks.steps (h : store.Walks links start path.writtenSteps (.found loc))
    (hdir : store.get? loc = some .dir) : store.Walks links start path.steps (.found loc) := by
  rw [Path.steps_eq]
  split
  · exact h.append fun _ => .dot hdir .stay
  · rwa [List.append_nil]

theorem makeDir_isDir (h : store.makeDir cwd path = .ok made) : made.isDir cwd path = true := by
  have hgrows := (makeDir_eq_ok h).grows
  unfold makeDir at h
  split at h
  · cases h
  · cases h
  next loc hplace =>
    cases h
    obtain ⟨dir, name, rfl, hlacks⟩ := lacksEntry_of_entryPlace hplace
    obtain ⟨front, hsteps⟩ := List.getLast?_eq_some_iff.mp hlacks.last
    have hfront := hlacks.walks
    rw [hsteps, List.dropLast_concat] at hfront
    have hhere : (store.set (dir ++ [name]) .dir).get? (dir ++ [name]) = some .dir :=
      get?_set_same store (List.concat_ne_nil name dir) .dir
    have hwritten := (hfront.grows_found hgrows).append fun _ =>
      .entry (hgrows.dirs hlacks.parent) hlacks.short hlacks.ne_dot hlacks.ne_dots
        hhere nofun .stay
    rw [← hsteps] at hwritten
    exact isDir_iff.mpr ⟨_, resolve_eq_ok_iff.mpr ⟨hlacks.fault, hwritten.steps hhere⟩, hhere⟩

/-- Where a path leads to an entry, there is something at its last step. -/
theorem exists_entryPlace (hfault : path.fault? = none)
    (h : store.Walks linkLimit (if path.isAbsolute then [] else cwd) path.writtenSteps
      (.found loc)) : ∃ found, store.entryPlace cwd path = .ok (.found found) := by
  rcases List.eq_nil_or_concat' path.writtenSteps with hnil | ⟨front, name, hsteps⟩
  · have hwritten : (path.bytes.splitOn Path.slash).filter (· ≠ []) = [] := hnil
    refine ⟨if path.isAbsolute then [] else cwd, ?_⟩
    simp only [entryPlace, hfault, hwritten, List.getLast?_nil]
  · have hwritten : (path.bytes.splitOn Path.slash).filter (· ≠ []) = front ++ [name] := hsteps
    rw [hsteps] at h
    obtain ⟨left, parent, hfront, hlast⟩ := h.exists_found (List.cons_ne_nil name [])
    simp only [entryPlace, hfault, hwritten, List.getLast?_concat, List.dropLast_concat,
      hfront.walk_eq]
    cases hlast with
    | dot hdir _ => exact ⟨parent, by simp [hdir, nameLimit]⟩
    | dots hdir _ => exact ⟨parent.dropLast, by simp [hdir, nameLimit, Path.dot]⟩
    | link hdir hlength hdot hdots htarget _ =>
      exact ⟨parent ++ [name], by simp [hdir, Nat.not_lt.mpr hlength, hdot, hdots, htarget]⟩
    | entry hdir hlength hdot hdots hentry _ _ =>
      exact ⟨parent ++ [name], by simp [hdir, Nat.not_lt.mpr hlength, hdot, hdots, hentry]⟩

theorem makeDir_of_isDir (h : store.isDir cwd path = true) :
    store.makeDir cwd path = .error .alreadyExists := by
  obtain ⟨loc, hresolve, -⟩ := isDir_iff.mp h
  obtain ⟨hfault, hwalk⟩ := resolve_eq_ok_iff.mp hresolve
  obtain ⟨found, hplace⟩ := exists_entryPlace hfault hwalk.writtenSteps
  rw [makeDir, hplace]

theorem ensureDir_isDir (h : store.ensureDir cwd path = (.ok (), made)) :
    made.isDir cwd path = true := by
  unfold ensureDir at h
  split at h
  · next after hmake =>
    cases h
    exact makeDir_isDir hmake
  · split at h
    · next hisdir =>
      cases h
      exact hisdir
    · cases h

theorem ensureDir_of_isDir (h : store.isDir cwd path = true) :
    store.ensureDir cwd path = (.ok (), store) := by
  rw [ensureDir, makeDir_of_isDir h]
  simp only [h, if_true]

theorem makeDirs_isDir (h : store.makeDirs cwd path = (.ok (), made)) :
    path.bytes = [] ∨ made.isDir cwd path = true := by
  rw [makeDirs, ensureChain] at h
  split at h
  · next hnil => exact .inl hnil
  · right
    split at h
    · split at h
      · cases h
      · exact ensureDir_isDir h
    · exact ensureDir_isDir h

theorem makeDirs_of_isDir (h : path.bytes = [] ∨ store.isDir cwd path = true) :
    store.makeDirs cwd path = (.ok (), store) := by
  rw [makeDirs, ensureChain]
  split
  · rfl
  · next hne =>
    have hisdir := h.resolve_left hne
    have hrefusal : refusal? (store.makeDir cwd path) ≠ some .notFound := by
      rw [makeDir_of_isDir hisdir]
      nofun
    rw [if_neg hrefusal, ensureDir_of_isDir hisdir]

/-- Once directories were made, and whatever was made after them, they need not be made again. -/
theorem makeDirs_again (h : store.makeDirs cwd path = (.ok (), made)) (hgrows : Grows made after) :
    after.makeDirs cwd path = (.ok (), after) :=
  makeDirs_of_isDir ((makeDirs_isDir h).imp_right hgrows.isDir)

end Making

end TypedQuery.Store

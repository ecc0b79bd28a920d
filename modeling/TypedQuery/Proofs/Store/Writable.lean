import TypedQuery.Proofs.Store.Directory
import TypedQuery.Proofs.Store.Fill

/-! Paths to which a file can be written, and how long that stays so. -/
namespace TypedQuery.Store

/-- The directories on the way are there, and the path does not lead to a directory itself. -/
def Writable (store : Store) (cwd : Location) (path : Path) : Prop :=
  path.hasTrailingSlash = false ∧
    ∃ place, store.place cwd path = .ok place ∧ store.get? place.loc ≠ some .dir

instance (store : Store) (cwd : Location) (path : Path) : Decidable (store.Writable cwd path) :=
  match hplace : store.place cwd path with
  | .error _ => isFalse fun h => nomatch hplace.symm.trans h.2.choose_spec.1
  | .ok place =>
    decidable_of_iff (path.hasTrailingSlash = false ∧ store.get? place.loc ≠ some .dir)
      ⟨fun h => ⟨h.1, place, hplace, h.2⟩, fun ⟨htrailing, _, hother, hdir⟩ =>
        ⟨htrailing, Except.ok.inj (hplace.symm.trans hother) ▸ hdir⟩⟩

variable {store before after : Store} {cwd : Location} {path : Path}

theorem Writable.exists_writeBytes (h : store.Writable cwd path) (content : ByteArray) :
    ∃ after, store.writeBytes cwd path content = .ok after := by
  obtain ⟨htrailing, place, hplace, hdir⟩ := h
  rw [writeBytes, htrailing, if_neg Bool.false_ne_true, hplace]
  cases place with
  | missing loc => exact ⟨_, rfl⟩
  | found loc =>
    refine ⟨store.set loc (.file content), ?_⟩
    dsimp only
    split
    · next hentry => exact absurd hentry hdir
    · rfl

/-- A path to which a file can be written stays one when files are filled, its own among them or
not. -/
theorem Writable.fills {files : List TextFile} (h : before.Writable cwd path)
    (hfills : Fills cwd files before after) : after.Writable cwd path := by
  obtain ⟨htrailing, place, hplace, hdir⟩ := h
  obtain ⟨arrival, harrival, hloc⟩ := place_of_grows hplace hfills.grows
  refine ⟨htrailing, arrival, harrival, ?_⟩
  have hsame : arrival.loc = place.loc := by
    rcases hloc with rfl | ⟨rfl, -⟩
    · rfl
    · rfl
  rw [hsame]
  rcases hfills.only place.loc with hold | ⟨file, hfile, hfileLoc⟩
  · rwa [hold]
  · obtain ⟨loc, hleads, hcontent⟩ := readBytes_eq_ok (hfills.filled file hfile)
    have hleads := hleads.location?_eq
    rw [hfills.grows.location?_eq, hfileLoc] at hleads
    obtain rfl := Option.some.inj hleads
    rw [content?_eq_some_iff.mp hcontent]
    nofun

/-- No file is written in the place of a directory. -/
theorem writeBytes_of_isDir (htrailing : path.hasTrailingSlash = false)
    (h : store.isDir cwd path = true) (content : ByteArray) :
    store.writeBytes cwd path content = .error .isADirectory := by
  obtain ⟨loc, hresolve, hdir⟩ := isDir_iff.mp h
  rw [writeBytes, htrailing, if_neg Bool.false_ne_true, place_of_resolve hresolve]
  simp only [hdir]

theorem readBytes_of_isDir (h : store.isDir cwd path = true) :
    store.readBytes cwd path = .error .isADirectory := by
  obtain ⟨loc, hresolve, hdir⟩ := isDir_iff.mp h
  simp only [readBytes, hresolve, hdir]

end TypedQuery.Store

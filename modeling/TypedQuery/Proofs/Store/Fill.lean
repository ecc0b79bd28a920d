import TypedQuery.Proofs.Store.Change

/-! Filling files one after the other. Files that lie apart do not disturb each other. -/
namespace TypedQuery.Store

/-- There is no location to which both paths lead. -/
def Apart (store : Store) (cwd : Location) (a b : Path) : Prop :=
  ∀ loc, store.location? cwd a = some loc → store.location? cwd b ≠ some loc

/-- No entry of the directory that the path leads to is a link. -/
def NoLinksIn (store : Store) (cwd : Location) (path : Path) : Prop :=
  ∀ dir name target, store.location? cwd path = some dir →
    store.get? (dir ++ [name]) ≠ some (.link target)

/-- A file and the text that is meant for it. -/
structure TextFile where
  path : Path
  text : String

/-- The files hold their texts, and no other entry has changed. -/
structure Fills (cwd : Location) (files : List TextFile) (before after : Store) : Prop where
  grows : Grows before after
  filled : ∀ file ∈ files, after.readBytes cwd file.path = .ok file.text.toByteArray
  only : ∀ loc, after.get? loc = before.get? loc ∨
    ∃ file ∈ files, before.location? cwd file.path = some loc

/-- No entry has changed but those that the paths lead to. -/
structure Touches (cwd : Location) (paths : List Path) (before after : Store) : Prop where
  grows : Grows before after
  only : ∀ loc, after.get? loc = before.get? loc ∨
    ∃ path ∈ paths, before.location? cwd path = some loc

variable {store before after : Store} {cwd loc : Location} {path : Path} {content : ByteArray}

section Apart

variable {a b : Path}

theorem Apart.symm (h : store.Apart cwd a b) : store.Apart cwd b a :=
  fun loc hb ha => h loc ha hb

theorem Grows.apart_iff (hgrows : Grows before after) :
    before.Apart cwd a b ↔ after.Apart cwd a b := by
  rw [Apart, Apart, hgrows.location?_eq, hgrows.location?_eq]

theorem Grows.apart (hgrows : Grows before after) (h : before.Apart cwd a b) :
    after.Apart cwd a b := hgrows.apart_iff.mp h

theorem LinkFree.noLinksIn (h : store.LinkFree) : store.NoLinksIn cwd path :=
  fun dir name target _ => h (dir ++ [name]) target

theorem Grows.noLinksIn (hgrows : Grows before after) (h : before.NoLinksIn cwd path) :
    after.NoLinksIn cwd path := by
  intro dir name target hdir htarget
  rw [hgrows.location?_eq] at hdir
  exact h dir name target hdir ((hgrows.links _ _).mpr htarget)

/-- A name in a directory without links leads to an entry of that directory. -/
theorem NoLinksIn.exists_dir {name : Name} (h : store.NoLinksIn cwd path)
    (hname : IsPlainName name) (hloc : store.location? cwd (path.join ⟨name⟩) = some loc) :
    ∃ dir, store.location? cwd path = some dir ∧ loc = dir ++ [name] := by
  obtain ⟨dir, hdir⟩ := exists_location?_of_join hname hloc
  rw [location?_join hname hdir fun target => h dir name target hdir] at hloc
  exact ⟨dir, hdir, (Option.some.inj hloc).symm⟩

/-- Two names in a directory without links. -/
theorem NoLinksIn.apart {name other : Name} (h : store.NoLinksIn cwd path)
    (hname : IsPlainName name) (hother : IsPlainName other) (hne : name ≠ other) :
    store.Apart cwd (path.join ⟨name⟩) (path.join ⟨other⟩) := by
  intro loc hloc hloc'
  obtain ⟨dir, hdir, rfl⟩ := h.exists_dir hname hloc
  obtain ⟨dir', hdir', hsame⟩ := h.exists_dir hother hloc'
  obtain rfl : dir = dir' := Option.some.inj (hdir.symm.trans hdir')
  exact hne (List.cons.inj (List.append_cancel_left hsame)).1

end Apart

/-- What a path reads stays the same if the entry it leads to does. -/
theorem Grows.readBytes_eq (hgrows : Grows before after)
    (h : before.readBytes cwd path = .ok content)
    (hsame : ∀ loc, before.location? cwd path = some loc → after.get? loc = before.get? loc) :
    after.readBytes cwd path = .ok content := by
  obtain ⟨loc, hleads, hfile⟩ := readBytes_eq_ok h
  have hget : after.get? loc = some (.file content) := by
    rw [hsame loc hleads.location?_eq]
    exact content?_eq_some_iff.mp hfile
  exact (hleads.grows hgrows hget).2

theorem Leads.fileAt?_eq (h : store.Leads cwd path loc) :
    store.fileAt? cwd path = store.content? loc := by
  rw [fileAt?, h.location?_eq, Option.bind_some]

theorem MakesDirs.fileAt?_eq {paths : List Path} (h : MakesDirs cwd paths before after) :
    after.fileAt? cwd path = before.fileAt? cwd path := by
  rw [fileAt?, fileAt?, h.grows.location?_eq]
  congr 1
  exact funext h.content?_eq

theorem MakesDirs.readBytes_eq {paths : List Path} (h : MakesDirs cwd paths before after)
    (hread : before.readBytes cwd path = .ok content) : after.readBytes cwd path = .ok content := by
  obtain ⟨loc, hleads, hfile⟩ := readBytes_eq_ok hread
  have hget : after.get? loc = some (.file content) := by
    rw [← content?_eq_some_iff, h.content?_eq loc, hfile]
  exact (hleads.grows h.grows hget).2

theorem fileAt?_of_readBytes (h : store.readBytes cwd path = .ok content) :
    store.fileAt? cwd path = some content := by
  obtain ⟨loc, hleads, hfile⟩ := readBytes_eq_ok h
  rw [hleads.fileAt?_eq, hfile]

theorem Leads.fills {text : String} (hleads : before.Leads cwd path loc)
    (h : Puts before after loc text.toByteArray) : Fills cwd [⟨path, text⟩] before after where
  grows := h.grows
  filled file hfile := by
    rw [List.mem_singleton.mp hfile]
    exact (hleads.grows h.grows h.here).2
  only other := by
    by_cases hother : other = loc
    · subst hother
      exact .inr ⟨_, List.mem_singleton_self _, hleads.location?_eq⟩
    · exact .inl (h.elsewhere hother)

namespace Fills

variable {files more : List TextFile}

theorem refl (cwd : Location) (store : Store) : Fills cwd [] store store where
  grows := .refl store
  filled _ h := absurd h List.not_mem_nil
  only _ := .inl rfl

/-- Where a path apart from the files leads, nothing changes. -/
theorem get?_eq (h : Fills cwd files before after)
    (hapart : ∀ file ∈ files, before.Apart cwd path file.path)
    (hloc : before.location? cwd path = some loc) : after.get? loc = before.get? loc := by
  rcases h.only loc with hsame | ⟨file, hfile, hlocation⟩
  · exact hsame
  · exact absurd hlocation (hapart file hfile loc hloc)

theorem fileAt?_eq (h : Fills cwd files before after)
    (hapart : ∀ file ∈ files, before.Apart cwd path file.path) :
    after.fileAt? cwd path = before.fileAt? cwd path := by
  rw [fileAt?, fileAt?, h.grows.location?_eq]
  cases hloc : before.location? cwd path with
  | none => rfl
  | some loc =>
    rw [Option.bind_some, Option.bind_some]
    exact content?_congr (h.get?_eq hapart hloc)

theorem readBytes_eq (h : Fills cwd files before after)
    (hapart : ∀ file ∈ files, before.Apart cwd path file.path)
    (hread : before.readBytes cwd path = .ok content) : after.readBytes cwd path = .ok content :=
  h.grows.readBytes_eq hread fun _ hloc => h.get?_eq hapart hloc

theorem trans {middle : Store} (h₁ : Fills cwd files before middle)
    (h₂ : Fills cwd more middle after)
    (hapart : ∀ file ∈ files, ∀ other ∈ more, before.Apart cwd file.path other.path) :
    Fills cwd (files ++ more) before after where
  grows := h₁.grows.trans h₂.grows
  filled file hfile := by
    rcases List.mem_append.mp hfile with hfile | hfile
    · have hapart' : ∀ other ∈ more, middle.Apart cwd file.path other.path :=
        fun other hother => h₁.grows.apart (hapart file hfile other hother)
      exact h₂.readBytes_eq hapart' (h₁.filled file hfile)
    · exact h₂.filled file hfile
  only loc := by
    rcases h₂.only loc with hsame | ⟨file, hfile, hloc⟩
    · rcases h₁.only loc with hfirst | ⟨file, hfile, hloc⟩
      · exact .inl (hsame.trans hfirst)
      · exact .inr ⟨file, List.mem_append_left more hfile, hloc⟩
    · rw [h₁.grows.location?_eq] at hloc
      exact .inr ⟨file, List.mem_append_right files hfile, hloc⟩

theorem touches (h : Fills cwd files before after) :
    Touches cwd (files.map (·.path)) before after where
  grows := h.grows
  only loc := by
    rcases h.only loc with hsame | ⟨file, hfile, hloc⟩
    · exact .inl hsame
    · exact .inr ⟨file.path, List.mem_map_of_mem hfile, hloc⟩

end Fills

namespace Touches

variable {paths more : List Path}

theorem refl (cwd : Location) (paths : List Path) (store : Store) :
    Touches cwd paths store store where
  grows := .refl store
  only _ := .inl rfl

theorem mono (h : Touches cwd paths before after) (hsub : paths ⊆ more) :
    Touches cwd more before after where
  grows := h.grows
  only loc := (h.only loc).imp_right fun ⟨path, hpath, hloc⟩ => ⟨path, hsub hpath, hloc⟩

theorem trans {middle : Store} (h₁ : Touches cwd paths before middle)
    (h₂ : Touches cwd paths middle after) : Touches cwd paths before after where
  grows := h₁.grows.trans h₂.grows
  only loc := by
    rcases h₂.only loc with hsame | ⟨path, hpath, hloc⟩
    · exact (h₁.only loc).imp_left hsame.trans
    · rw [h₁.grows.location?_eq] at hloc
      exact .inr ⟨path, hpath, hloc⟩

end Touches

end TypedQuery.Store

import TypedQuery.Proofs.Store.Growth

/-! What writing a file and making directories change, and what they leave as it was. -/
namespace TypedQuery.Store

/-- A file with this content is at the location, and all else is as before. -/
structure Puts (before after : Store) (loc : Location) (content : ByteArray) : Prop where
  grows : Grows before after
  here : after.get? loc = some (.file content)
  elsewhere : ∀ {other}, other ≠ loc → after.get? other = before.get? other

/-- Directories are made where some of the paths lead, and all else is as before. -/
structure MakesDirs (cwd : Location) (paths : List Path) (before after : Store) : Prop where
  grows : Grows before after
  only : ∀ loc, after.get? loc = before.get? loc ∨ before.get? loc = none ∧
    after.get? loc = some .dir ∧ ∃ path ∈ paths, before.location? cwd path = some loc

variable {store before after : Store} {cwd loc : Location} {path : Path} {paths : List Path}
  {content : ByteArray} {text : String}

theorem content?_eq_some_iff : store.content? loc = some content ↔
    store.get? loc = some (.file content) := by
  unfold content?
  cases store.get? loc with
  | none => simp
  | some entry => cases entry <;> simp

theorem fromUTF8?_eq_some_iff : String.fromUTF8? content = some text ↔
    content = text.toByteArray := by
  unfold String.fromUTF8?
  constructor
  · intro h
    split at h
    · cases h
      rfl
    · cases h
  · rintro rfl
    rw [dif_pos text.isValidUTF8]
    rfl

theorem textAt?_eq_some_iff :
    store.textAt? cwd path = some text ↔ store.fileAt? cwd path = some text.toByteArray := by
  rw [textAt?, Option.bind_eq_some_iff]
  constructor
  · rintro ⟨content, hfile, htext⟩
    rw [hfile, fromUTF8?_eq_some_iff.mp htext]
  · intro hfile
    exact ⟨_, hfile, fromUTF8?_eq_some_iff.mpr rfl⟩

theorem content?_congr (h : after.get? loc = before.get? loc) :
    after.content? loc = before.content? loc := by
  rw [content?, content?, h]

section Writing

theorem puts_of_content? (h : store.content? loc = some content) :
    Puts store store loc content where
  grows := .refl store
  here := content?_eq_some_iff.mp h
  elsewhere _ := rfl

theorem puts_set {dir : Location} {name : Name} (hdir : store.get? dir = some .dir)
    (hold : store.get? (dir ++ [name]) = none ∨
      ∃ old, store.get? (dir ++ [name]) = some (.file old)) (content : ByteArray) :
    Puts store (store.set (dir ++ [name]) (.file content)) (dir ++ [name]) content where
  grows := by
    have hnew : ∀ target, Entry.file content ≠ .link target := nofun
    apply grows_set hdir hnew
    rcases hold with hnone | ⟨old, hold⟩
    · exact .inl hnone
    · exact .inr ⟨old, content, hold, rfl⟩
  here := get?_set_same store (by simp) _
  elsewhere h := get?_set_other store h _

theorem readBytes_eq_ok (h : store.readBytes cwd path = .ok content) :
    ∃ loc, store.Leads cwd path loc ∧ store.content? loc = some content := by
  unfold readBytes at h
  split at h
  · cases h
  · next loc hresolve =>
    refine ⟨loc, ⟨_, place_of_resolve hresolve, rfl⟩, ?_⟩
    split at h
    · next found hget =>
      cases h
      exact content?_eq_some_iff.mpr hget
    · cases h
    · cases h

theorem Leads.readBytes_eq (h : store.Leads cwd path loc)
    (hfile : store.content? loc = some content) : store.readBytes cwd path = .ok content :=
  (h.grows (.refl store) (content?_eq_some_iff.mp hfile)).2

theorem readText_toOption_eq_some_iff : (store.readText cwd path).toOption = some text ↔
    ∃ loc, store.Leads cwd path loc ∧ store.content? loc = some text.toByteArray := by
  constructor
  · intro h
    unfold readText at h
    split at h
    · cases h
    · next content hread =>
      split at h
      · next found hdecode =>
        cases h
        obtain ⟨loc, hleads, hfile⟩ := readBytes_eq_ok hread
        rw [fromUTF8?_eq_some_iff.mp hdecode] at hfile
        exact ⟨loc, hleads, hfile⟩
      · cases h
  · rintro ⟨loc, hleads, hfile⟩
    rw [readText, hleads.readBytes_eq hfile]
    simp only [fromUTF8?_eq_some_iff.mpr rfl]
    rfl

/-- A file is written by setting an entry of a directory that was a file or missing. -/
theorem writeBytes_eq_set (htree : store.IsTree)
    (h : store.writeBytes cwd path content = .ok after) :
    ∃ dir name, store.Leads cwd path (dir ++ [name]) ∧
      after = store.set (dir ++ [name]) (.file content) ∧ store.get? dir = some .dir ∧
      (store.get? (dir ++ [name]) = none ∨
        ∃ old, store.get? (dir ++ [name]) = some (.file old)) := by
  unfold writeBytes at h
  split at h
  · split at h <;> cases h
  · cases hplace : store.place cwd path with
    | error cause => simp [hplace] at h
    | ok place =>
      have hsteps := Path.steps_ne_nil (place_ne_nil hplace)
      rcases (walks_of_place hplace).entry_at htree (.inl hsteps) with
        ⟨dir, name, rfl, hdir, hnone⟩ | ⟨entry, hfound, hget, hlink⟩
      · simp only [hplace] at h
        cases h
        exact ⟨dir, name, ⟨_, hplace, rfl⟩, rfl, hdir, .inl hnone⟩
      · rw [hfound] at hplace
        simp only [hplace, hget] at h
        cases entry with
        | dir => cases h
        | link target => exact absurd rfl (hlink target)
        | file old =>
          cases h
          rcases List.eq_nil_or_concat' place.loc with hroot | ⟨dir, name, hloc⟩
          · rw [hroot, get?_nil] at hget
            cases hget
          · rw [hloc] at hplace hget ⊢
            exact ⟨dir, name, ⟨_, hplace, rfl⟩, rfl, htree dir name (by simp [hget]),
              .inr ⟨old, hget⟩⟩

theorem writeBytes_eq_ok (htree : store.IsTree)
    (h : store.writeBytes cwd path content = .ok after) :
    ∃ loc, store.Leads cwd path loc ∧ Puts store after loc content := by
  obtain ⟨dir, name, hleads, rfl, hdir, hold⟩ := writeBytes_eq_set htree h
  exact ⟨_, hleads, puts_set hdir hold content⟩

end Writing

namespace MakesDirs

theorem refl (cwd : Location) (paths : List Path) (store : Store) :
    MakesDirs cwd paths store store where
  grows := .refl store
  only _ := .inl rfl

theorem trans {middle : Store} (h₁ : MakesDirs cwd paths before middle)
    (h₂ : MakesDirs cwd paths middle after) : MakesDirs cwd paths before after where
  grows := h₁.grows.trans h₂.grows
  only loc := by
    rcases h₂.only loc with hsame | ⟨hnone, hdir, path, hpath, hloc⟩
    · rcases h₁.only loc with hfirst | ⟨hnone, hdir, hpath⟩
      · exact .inl (hsame.trans hfirst)
      · exact .inr ⟨hnone, hsame.trans hdir, hpath⟩
    · rcases h₁.only loc with hfirst | ⟨_, hdir', _⟩
      · rw [h₁.grows.location?_eq] at hloc
        exact .inr ⟨hfirst ▸ hnone, hdir, path, hpath, hloc⟩
      · rw [hnone] at hdir'
        cases hdir'

theorem mono {more : List Path} (h : MakesDirs cwd paths before after)
    (hsub : ∀ path ∈ paths, path ∈ more) : MakesDirs cwd more before after where
  grows := h.grows
  only loc := by
    rcases h.only loc with hsame | ⟨hnone, hdir, path, hpath, hloc⟩
    · exact .inl hsame
    · exact .inr ⟨hnone, hdir, path, hsub path hpath, hloc⟩

/-- No file is touched. -/
theorem content?_eq (h : MakesDirs cwd paths before after) (loc : Location) :
    after.content? loc = before.content? loc := by
  rcases h.only loc with hsame | ⟨hnone, hdir, _⟩
  · exact content?_congr hsame
  · rw [content?, content?, hnone, hdir]

end MakesDirs

section Directories

/-- All is there on the way to the path but the entry itself. -/
structure LacksEntry (store : Store) (cwd : Location) (path : Path) (dir : Location) (name : Name) :
    Prop where
  fault : path.fault? = none
  last : path.writtenSteps.getLast? = some name
  walks : store.Walks linkLimit (if path.isAbsolute then [] else cwd) path.writtenSteps.dropLast
    (.found dir)
  parent : store.get? dir = some .dir
  missing : store.get? (dir ++ [name]) = none
  short : name.length ≤ nameLimit
  ne_dot : name ≠ [Path.dot]
  ne_dots : name ≠ [Path.dot, Path.dot]

theorem lacksEntry_of_entryPlace (h : store.entryPlace cwd path = .ok (.missing loc)) :
    ∃ dir name, loc = dir ++ [name] ∧ store.LacksEntry cwd path dir name := by
  unfold entryPlace at h
  split at h
  · cases h
  next hfault =>
    dsimp only at h
    split at h
    · cases h
    next name hlast =>
      split at h
      · cases h
      · cases h
      next parent hwalk =>
        split_ifs at h with hdir hlength hdot hdots hsome
        · cases h
        · cases h
        · cases h
        cases h
        exact ⟨parent, name, rfl, hfault, hlast, walks_of_walk hwalk, not_not.mp hdir,
          Option.not_isSome_iff_eq_none.mp hsome, Nat.le_of_not_lt hlength, hdot, hdots⟩

theorem LacksEntry.location?_eq {dir : Location} {name : Name}
    (h : store.LacksEntry cwd path dir name) : store.location? cwd path = some (dir ++ [name]) := by
  obtain ⟨front, hsteps⟩ := List.getLast?_eq_some_iff.mp h.last
  obtain ⟨left, hfollow⟩ := h.walks.follow_eq
  rw [hsteps, List.dropLast_concat] at hfollow
  rw [location?, follow_steps, hsteps, follow_append, hfollow, Option.bind_some,
    follow_plain h.ne_dot h.ne_dots (by simp [Place.loc, h.missing]), follow_nil]
  rfl

theorem entryPlace_eq_missing (h : store.entryPlace cwd path = .ok (.missing loc)) :
    ∃ dir name, loc = dir ++ [name] ∧ store.get? dir = some .dir ∧
      store.get? (dir ++ [name]) = none ∧ store.location? cwd path = some (dir ++ [name]) := by
  obtain ⟨dir, name, hloc, hlacks⟩ := lacksEntry_of_entryPlace h
  exact ⟨dir, name, hloc, hlacks.parent, hlacks.missing, hlacks.location?_eq⟩

theorem makeDir_eq_ok (h : store.makeDir cwd path = .ok after) :
    MakesDirs cwd [path] store after := by
  unfold makeDir at h
  split at h
  · cases h
  · cases h
  next loc hplace =>
    cases h
    obtain ⟨dir, name, rfl, hdir, hnone, hloc⟩ := entryPlace_eq_missing hplace
    refine ⟨grows_set hdir nofun (.inl hnone), ?_⟩
    intro other
    by_cases hother : other = dir ++ [name]
    · subst hother
      exact .inr ⟨hnone, get?_set_same store (by simp) _, path, List.mem_singleton_self path, hloc⟩
    · exact .inl (get?_set_other store hother _)

theorem ensureDir_makesDirs (store : Store) (cwd : Location) (path : Path) :
    MakesDirs cwd [path] store (store.ensureDir cwd path).2 := by
  unfold ensureDir
  split
  · next after hmake => exact makeDir_eq_ok hmake
  · exact .refl cwd [path] store

theorem ensureChain_makesDirs (store : Store) (cwd : Location) (paths : List Path) :
    MakesDirs cwd paths store (store.ensureChain cwd paths).2 := by
  induction paths generalizing store with
  | nil => exact .refl cwd [] store
  | cons path parents ih =>
    have hlast : ∀ store, MakesDirs cwd (path :: parents) store (store.ensureDir cwd path).2 :=
      fun store => (ensureDir_makesDirs store cwd path).mono
        fun _ h => List.mem_singleton.mp h ▸ List.mem_cons_self
    have hparents : MakesDirs cwd (path :: parents) store (store.ensureChain cwd parents).2 :=
      (ih store).mono fun _ => List.mem_cons_of_mem path
    unfold ensureChain
    split
    · exact .refl cwd _ store
    · split
      · split
        · next cause made hchain =>
          rw [hchain] at hparents
          exact hparents
        · next made hchain =>
          rw [hchain] at hparents
          exact hparents.trans (hlast made)
      · exact hlast store

theorem makeDirs_makesDirs (store : Store) (cwd : Location) (path : Path) :
    MakesDirs cwd (path :: path.ancestors) store (store.makeDirs cwd path).2 :=
  ensureChain_makesDirs store cwd _

end Directories

end TypedQuery.Store

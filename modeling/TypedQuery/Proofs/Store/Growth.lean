import TypedQuery.Proofs.Store.Location

/-! File systems that grow: files are made and written, directories are made, and nothing goes
away. A path that leads to a file keeps leading there. -/
namespace TypedQuery.Store

/-- What an entry lies in is a directory. -/
def IsTree (store : Store) : Prop :=
  ∀ loc name, store.get? (loc ++ [name]) ≠ none → store.get? loc = some .dir

def LinkFree (store : Store) : Prop := ∀ loc target, store.get? loc ≠ some (.link target)

structure Grows (before after : Store) : Prop where
  links : SameLinks before after
  dirs : ∀ {loc}, before.get? loc = some .dir → after.get? loc = some .dir
  files : ∀ {loc content}, before.get? loc = some (.file content) →
    ∃ newContent, after.get? loc = some (.file newContent)
  tree : before.IsTree → after.IsTree

variable {store before after : Store} {cwd loc : Location} {path : Path}

section Empty

theorem get?_empty (h : loc ≠ []) : empty.get? loc = none := if_neg h

theorem isTree_empty : empty.IsTree :=
  fun loc name h => absurd (get?_empty (List.concat_ne_nil name loc)) h

theorem linkFree_empty : empty.LinkFree := by
  intro loc target h
  by_cases hloc : loc = []
  · subst hloc
    rw [get?_nil] at h
    cases h
  · rw [get?_empty hloc] at h
    cases h

end Empty

namespace Grows

theorem refl (store : Store) : Grows store store where
  links _ _ := Iff.rfl
  dirs h := h
  files h := ⟨_, h⟩
  tree h := h

theorem trans {middle : Store} (h₁ : Grows before middle) (h₂ : Grows middle after) :
    Grows before after where
  links loc target := (h₁.links loc target).trans (h₂.links loc target)
  dirs h := h₂.dirs (h₁.dirs h)
  files h := by
    obtain ⟨_, h⟩ := h₁.files h
    exact h₂.files h
  tree h := h₂.tree (h₁.tree h)

theorem linkFree (h : Grows before after) (hlinks : before.LinkFree) : after.LinkFree :=
  fun loc target htarget => hlinks loc target ((h.links loc target).mpr htarget)

theorem location?_eq (h : Grows before after) :
    after.location? cwd path = before.location? cwd path := location?_congr h.links

end Grows

theorem IsTree.dir_dropLast (htree : store.IsTree) (h : store.get? loc = some .dir) :
    store.get? loc.dropLast = some .dir := by
  rcases List.eq_nil_or_concat' loc with rfl | ⟨front, name, rfl⟩
  · exact h
  · rw [List.dropLast_concat]
    exact htree front name (by simp [h])

/-- Making an entry in a directory, or writing to a file. -/
theorem grows_set {dir : Location} {name : Name} {entry : Entry} (hdir : store.get? dir = some .dir)
    (hnew : ∀ target, entry ≠ .link target)
    (hold : store.get? (dir ++ [name]) = none ∨ ∃ old content,
      store.get? (dir ++ [name]) = some (.file old) ∧ entry = .file content) :
    Grows store (store.set (dir ++ [name]) entry) := by
  have hsame : (store.set (dir ++ [name]) entry).get? (dir ++ [name]) = some entry :=
    get?_set_same store (by simp) entry
  have hother : ∀ {other}, other ≠ dir ++ [name] →
      (store.set (dir ++ [name]) entry).get? other = store.get? other :=
    fun h => get?_set_other store h entry
  have hne : ∀ {other e}, store.get? other = some e → (∀ content, e ≠ .file content) →
      other ≠ dir ++ [name] := by
    rintro _ e hget hfile rfl
    rcases hold with hnone | ⟨old, _, hold, _⟩
    · rw [hnone] at hget
      cases hget
    · exact hfile old (Option.some.inj (hget.symm.trans hold))
  refine ⟨?_, ?_, ?_, ?_⟩
  · intro loc target
    by_cases hloc : loc = dir ++ [name]
    · subst hloc
      refine iff_of_false (fun hget => hne hget nofun rfl) ?_
      rw [hsame]
      exact fun heq => hnew target (Option.some.inj heq)
    · rw [hother hloc]
  · intro loc hget
    rw [hother (hne hget nofun)]
    exact hget
  · intro loc content hget
    by_cases hloc : loc = dir ++ [name]
    · subst hloc
      rcases hold with hnone | ⟨_, newContent, _, rfl⟩
      · rw [hnone] at hget
        cases hget
      · exact ⟨newContent, hsame⟩
    · exact ⟨content, (hother hloc).trans hget⟩
  · intro htree loc child hchild
    have hparent : store.get? loc = some .dir := by
      by_cases hloc : loc ++ [child] = dir ++ [name]
      · rw [(List.append_inj' hloc rfl).1]
        exact hdir
      · rw [hother hloc] at hchild
        exact htree loc child hchild
    rw [hother (hne hparent nofun)]
    exact hparent

section Walks

variable {links : Nat} {steps : List Name} {place : Place}

/-- Steps arrive where an entry is, and no link, or where only the entry is missing. -/
theorem Walks.entry_at (h : store.Walks links loc steps place) (htree : store.IsTree)
    (hsteps : steps ≠ [] ∨ store.get? loc = some .dir) :
    (∃ dir name, place = .missing (dir ++ [name]) ∧ store.get? dir = some .dir ∧
        store.get? (dir ++ [name]) = none) ∨
      ∃ entry, place = .found place.loc ∧ store.get? place.loc = some entry ∧
        ∀ target, entry ≠ .link target := by
  induction h with
  | stay => exact .inr ⟨.dir, rfl, hsteps.resolve_left (fun h => h rfl), nofun⟩
  | dot hdir _ ih => exact ih (.inr hdir)
  | dots hdir _ ih => exact ih (.inr (htree.dir_dropLast hdir))
  | missing hdir _ _ _ hnone => exact .inl ⟨_, _, rfl, hdir, hnone⟩
  | @link _ loc _ _ _ target hdir _ _ _ _ _ ih =>
    apply ih
    right
    split
    · exact get?_nil store
    · exact hdir
  | @entry _ _ _ rest _ entry hdir _ _ _ hentry hlink htail ih =>
    by_cases hrest : rest = []
    · subst hrest
      cases htail
      exact .inr ⟨entry, rfl, hentry, hlink⟩
    · exact ih (.inl hrest)

/-- Steps lead to the same location when the file system has grown. What was missing there may have
been made. -/
theorem Walks.grows (h : before.Walks links loc steps place) (hgrows : Grows before after) :
    ∃ arrival, after.Walks links loc steps arrival ∧
      (arrival = .found place.loc ∨ arrival = place ∧ after.get? place.loc = none) := by
  induction h with
  | stay => exact ⟨_, .stay, .inl rfl⟩
  | dot hdir _ ih =>
    obtain ⟨arrival, htail, harrival⟩ := ih
    exact ⟨arrival, .dot (hgrows.dirs hdir) htail, harrival⟩
  | dots hdir _ ih =>
    obtain ⟨arrival, htail, harrival⟩ := ih
    exact ⟨arrival, .dots (hgrows.dirs hdir) htail, harrival⟩
  | @missing links loc name hdir hlength hdot hdots hnone =>
    cases hentry : after.get? (loc ++ [name]) with
    | none => exact ⟨_, .missing (hgrows.dirs hdir) hlength hdot hdots hentry, .inr ⟨rfl, hentry⟩⟩
    | some entry =>
      have hlink : ∀ target, entry ≠ .link target := by
        rintro target rfl
        rw [(hgrows.links _ _).mpr hentry] at hnone
        cases hnone
      exact ⟨_, .entry (hgrows.dirs hdir) hlength hdot hdots hentry hlink .stay, .inl rfl⟩
  | link hdir hlength hdot hdots htarget _ ih =>
    obtain ⟨arrival, htail, harrival⟩ := ih
    have htarget' := (hgrows.links _ _).mp htarget
    exact ⟨arrival, .link (hgrows.dirs hdir) hlength hdot hdots htarget' htail, harrival⟩
  | @entry _ _ _ _ _ entry hdir hlength hdot hdots hentry hlink _ ih =>
    obtain ⟨arrival, htail, harrival⟩ := ih
    cases entry with
    | file old =>
      obtain ⟨content, hnew⟩ := hgrows.files hentry
      exact ⟨arrival, .entry (hgrows.dirs hdir) hlength hdot hdots hnew nofun htail, harrival⟩
    | dir =>
      have hnew := hgrows.dirs hentry
      exact ⟨arrival, .entry (hgrows.dirs hdir) hlength hdot hdots hnew nofun htail, harrival⟩
    | link target => exact absurd rfl (hlink target)

/-- Steps that lead to an entry lead there when the file system has grown. -/
theorem Walks.grows_found {dest : Location} (h : before.Walks links loc steps (.found dest))
    (hgrows : Grows before after) : after.Walks links loc steps (.found dest) := by
  obtain ⟨arrival, hwalk, rfl | ⟨rfl, -⟩⟩ := h.grows hgrows
  · exact hwalk
  · exact hwalk

end Walks

theorem readBytes_of_found {content : ByteArray} (hplace : store.place cwd path = .ok (.found loc))
    (hfile : store.get? loc = some (.file content)) : store.readBytes cwd path = .ok content := by
  simp [readBytes, resolve, hplace, hfile]

theorem place_of_grows {place : Place} (h : before.place cwd path = .ok place)
    (hgrows : Grows before after) : ∃ arrival, after.place cwd path = .ok arrival ∧
      (arrival = .found place.loc ∨ arrival = place ∧ after.get? place.loc = none) := by
  obtain ⟨arrival, hwalk, harrival⟩ := (walks_of_place h).grows hgrows
  refine ⟨arrival, ?_, harrival⟩
  unfold Store.place at h ⊢
  split at h
  · cases h
  · exact hwalk.walk_eq

theorem Leads.grows (h : before.Leads cwd path loc) (hgrows : Grows before after)
    {content : ByteArray} (hfile : after.get? loc = some (.file content)) :
    after.Leads cwd path loc ∧ after.readBytes cwd path = .ok content := by
  obtain ⟨place, hplace, rfl⟩ := h
  obtain ⟨arrival, harrival, rfl | ⟨-, hnone⟩⟩ := place_of_grows hplace hgrows
  · exact ⟨⟨_, harrival, rfl⟩, readBytes_of_found harrival hfile⟩
  · rw [hnone] at hfile
    cases hfile

end TypedQuery.Store

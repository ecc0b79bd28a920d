import TypedQuery.Proofs.Path.Descent
import TypedQuery.Proofs.Store.Growth
import Mathlib.Data.List.Nodup

/-! Directory trees: what is listed in a directory, and where paths into the tree lead. -/
namespace TypedQuery

/-- A name that an entry of a directory can have. -/
structure IsEntryName (name : Name) : Prop where
  plain : IsPlainName name
  short : name.length ≤ Store.nameLimit
  zero_not_mem : 0 ∉ name

instance (name : Name) : Decidable (IsPlainName name) :=
  decidable_of_iff
    (name ≠ [] ∧ Path.slash ∉ name ∧ name ≠ [Path.dot] ∧ name ≠ [Path.dot, Path.dot])
    ⟨fun ⟨a, b, c, d⟩ => ⟨a, b, c, d⟩, fun ⟨a, b, c, d⟩ => ⟨a, b, c, d⟩⟩

instance (name : Name) : Decidable (IsEntryName name) :=
  decidable_of_iff (IsPlainName name ∧ name.length ≤ Store.nameLimit ∧ 0 ∉ name)
    ⟨fun ⟨a, b, c⟩ => ⟨a, b, c⟩, fun ⟨a, b, c⟩ => ⟨a, b, c⟩⟩

namespace Store

/-- The entries have locations of their own, in directories, and names that entries can have. -/
structure IsProper (store : Store) : Prop where
  nodup : (store.entries.map (·.1)).Nodup
  tree : store.IsTree
  names : ∀ loc name, store.get? (loc ++ [name]) ≠ none → IsEntryName name

/-- There is no link below the location or at it. -/
def NoLinksBelow (store : Store) (loc : Location) : Prop :=
  ∀ names target, store.get? (loc ++ names) ≠ some (.link target)

/-- What can be told of the entries below a location if the file system is proper and has no links
there. -/
structure IsTidyBelow (store : Store) (loc : Location) : Prop where
  nodup : ∀ dir, (store.children dir).Nodup
  tree : store.IsTree
  names : ∀ front name, store.get? (loc ++ front ++ [name]) ≠ none → IsEntryName name
  links : store.NoLinksBelow loc

variable {store other : Store} {cwd loc : Location} {dir : Path} {name : Name}
  {names : List Name} {entry : Entry}

section Entries

theorem mem_entries_of_get? (hloc : loc ≠ []) (h : store.get? loc = some entry) :
    (loc, entry) ∈ store.entries := by
  rw [get?, if_neg hloc, List.lookup_eq_some_iff] at h
  obtain ⟨before, after, hentries, _⟩ := h
  rw [hentries]
  exact List.mem_append_right before List.mem_cons_self

theorem get?_ne_none_iff (hloc : loc ≠ []) :
    store.get? loc ≠ none ↔ ∃ entry, (loc, entry) ∈ store.entries := by
  rw [get?, if_neg hloc, ne_eq, List.lookup_eq_none_iff]
  simp only [bne_iff_ne, ne_eq, not_forall, not_not]
  constructor
  · rintro ⟨⟨found, entry⟩, hmem, rfl⟩
    exact ⟨entry, hmem⟩
  · rintro ⟨entry, hmem⟩
    exact ⟨_, hmem, rfl⟩

theorem get?_eq_some_iff (hnodup : (store.entries.map (·.1)).Nodup) (hloc : loc ≠ []) :
    store.get? loc = some entry ↔ (loc, entry) ∈ store.entries := by
  refine ⟨mem_entries_of_get? hloc, fun hmem => ?_⟩
  obtain ⟨found, hfound⟩ :=
    Option.ne_none_iff_exists'.mp ((get?_ne_none_iff hloc).mpr ⟨entry, hmem⟩)
  have hsame := List.inj_on_of_nodup_map hnodup (mem_entries_of_get? hloc hfound) hmem rfl
  rw [hfound, (Prod.mk.inj hsame).2]

/-- The order of the entries does not matter for what is where. -/
theorem get?_eq_of_perm (hnodup : (store.entries.map (·.1)).Nodup)
    (hperm : other.entries.Perm store.entries) (loc : Location) :
    other.get? loc = store.get? loc := by
  by_cases hloc : loc = []
  · rw [hloc, get?_nil, get?_nil]
  · have hnodup' := (hperm.map (·.1)).nodup_iff.mpr hnodup
    apply Option.ext
    intro entry
    rw [get?_eq_some_iff hnodup' hloc, get?_eq_some_iff hnodup hloc, hperm.mem_iff]

theorem IsProper.perm (h : store.IsProper) (hperm : other.entries.Perm store.entries) :
    other.IsProper where
  nodup := (hperm.map (·.1)).nodup_iff.mpr h.nodup
  tree loc name := by
    rw [get?_eq_of_perm h.nodup hperm, get?_eq_of_perm h.nodup hperm]
    exact h.tree loc name
  names loc name := by
    rw [get?_eq_of_perm h.nodup hperm]
    exact h.names loc name

theorem map_fst_go (loc : Location) (entry : Entry) (entries : List (Location × Entry)) :
    (set.go loc entry entries).map (·.1) =
      if loc ∈ entries.map (·.1) then entries.map (·.1) else entries.map (·.1) ++ [loc] := by
  induction entries with
  | nil => rfl
  | cons head rest ih =>
    obtain ⟨first, old⟩ := head
    by_cases hfirst : first = loc
    · simp [set.go, hfirst]
    · rw [set.go, if_neg hfirst, List.map_cons, ih]
      simp only [List.map_cons, List.mem_cons, Ne.symm hfirst, false_or]
      split <;> rfl

/-- Setting an entry makes no second one at its location. -/
theorem nodup_set (h : (store.entries.map (·.1)).Nodup) (loc : Location) (entry : Entry) :
    ((store.set loc entry).entries.map (·.1)).Nodup := by
  rw [set, map_fst_go]
  split
  · exact h
  · next hnew => exact List.nodup_append.mpr ⟨h, List.nodup_singleton loc, by grind⟩

theorem isProper_empty : empty.IsProper where
  nodup := List.nodup_nil
  tree := isTree_empty
  names loc name h := absurd (get?_empty (List.concat_ne_nil name loc)) h

theorem IsProper.set (h : store.IsProper) (front : Location) (hdir : store.get? front = some .dir)
    (hname : IsEntryName name) (hnew : ∀ target, entry ≠ .link target)
    (hold : store.get? (front ++ [name]) = none ∨ ∃ old content,
      store.get? (front ++ [name]) = some (.file old) ∧ entry = .file content) :
    (store.set (front ++ [name]) entry).IsProper where
  nodup := nodup_set h.nodup _ entry
  tree := (grows_set hdir hnew hold).tree h.tree
  names loc child hchild := by
    by_cases hloc : loc ++ [child] = front ++ [name]
    · obtain rfl := (List.cons.inj (List.append_inj' hloc rfl).2).1
      exact hname
    · rw [get?_set_other store hloc] at hchild
      exact h.names loc child hchild

theorem LinkFree.set (h : store.LinkFree) (hloc : loc ≠ [])
    (hnew : ∀ target, entry ≠ .link target) : (store.set loc entry).LinkFree := by
  intro other target htarget
  by_cases hother : other = loc
  · rw [hother, get?_set_same store hloc] at htarget
    exact hnew target (Option.some.inj htarget)
  · rw [get?_set_other store hother] at htarget
    exact h other target htarget

theorem LinkFree.noLinksBelow (h : store.LinkFree) (loc : Location) : store.NoLinksBelow loc :=
  fun names target => h (loc ++ names) target

end Entries

section Children

theorem child?_eq_some_iff {found : Location} :
    (if found.dropLast = loc then found.getLast? else none) = some name ↔
      found = loc ++ [name] := by
  constructor
  · intro h
    by_cases hparent : found.dropLast = loc
    · rw [if_pos hparent] at h
      obtain ⟨front, rfl⟩ := List.getLast?_eq_some_iff.mp h
      rw [← hparent, List.dropLast_concat]
    · rw [if_neg hparent] at h
      cases h
  · rintro rfl
    rw [if_pos List.dropLast_concat, List.getLast?_concat]

theorem mem_children_iff : name ∈ store.children loc ↔ store.get? (loc ++ [name]) ≠ none := by
  rw [get?_ne_none_iff (List.concat_ne_nil name loc), children, List.mem_filterMap]
  constructor
  · rintro ⟨⟨found, entry⟩, hmem, hname⟩
    exact ⟨entry, child?_eq_some_iff.mp hname ▸ hmem⟩
  · rintro ⟨entry, hmem⟩
    exact ⟨_, hmem, child?_eq_some_iff.mpr rfl⟩

theorem children_nodup (hnodup : (store.entries.map (·.1)).Nodup) (loc : Location) :
    (store.children loc).Nodup := by
  apply List.Pairwise.filterMap _ _ (List.pairwise_map.mp hnodup)
  rintro ⟨a, _⟩ ⟨b, _⟩ hne name hname other hother rfl
  exact hne ((child?_eq_some_iff.mp hname).trans (child?_eq_some_iff.mp hother).symm)

theorem IsProper.isTidyBelow (h : store.IsProper) (hlinks : store.NoLinksBelow loc) :
    store.IsTidyBelow loc where
  nodup := children_nodup h.nodup
  tree := h.tree
  names front := h.names (loc ++ front)
  links := hlinks

end Children

section Walks

variable {links : Nat} {start mid : Location} {front rest : List Name} {place : Place}

theorem Walks.append (h : store.Walks links start front (.found mid))
    (hrest : ∀ links, store.Walks links mid rest place) :
    store.Walks links start (front ++ rest) place := by
  generalize hplace : Place.found mid = arrived at h
  induction h with
  | stay =>
    cases hplace
    exact hrest _
  | dot hdir _ ih => exact .dot hdir (ih hplace)
  | dots hdir _ ih => exact .dots hdir (ih hplace)
  | missing => cases hplace
  | link hdir hlength hdot hdots htarget _ ih =>
    have htail := ih hplace
    rw [List.append_assoc] at htail
    exact .link hdir hlength hdot hdots htarget htail
  | entry hdir hlength hdot hdots hentry hlink _ ih =>
    exact .entry hdir hlength hdot hdots hentry hlink (ih hplace)

/-- What comes before further steps leads to a directory. -/
theorem Walks.exists_found (h : store.Walks links start (front ++ rest) place) (hrest : rest ≠ []) :
    ∃ left mid, store.Walks links start front (.found mid) ∧ store.Walks left mid rest place := by
  generalize hsteps : front ++ rest = steps at h
  induction h generalizing front with
  | stay => exact absurd (List.append_eq_nil_iff.mp hsteps).2 hrest
  | @dot links loc after place hdir htail ih =>
    cases front with
    | nil =>
      obtain rfl : rest = _ := hsteps
      exact ⟨links, loc, .stay, .dot hdir htail⟩
    | cons step front =>
      obtain ⟨rfl, hafter⟩ := List.cons.inj hsteps
      obtain ⟨left, mid, hfront, hrest⟩ := ih hafter
      exact ⟨left, mid, .dot hdir hfront, hrest⟩
  | @dots links loc after place hdir htail ih =>
    cases front with
    | nil =>
      obtain rfl : rest = _ := hsteps
      exact ⟨links, loc, .stay, .dots hdir htail⟩
    | cons step front =>
      obtain ⟨rfl, hafter⟩ := List.cons.inj hsteps
      obtain ⟨left, mid, hfront, hrest⟩ := ih hafter
      exact ⟨left, mid, .dots hdir hfront, hrest⟩
  | @missing links loc name hdir hlength hdot hdots hnone =>
    cases front with
    | nil =>
      obtain rfl : rest = _ := hsteps
      exact ⟨links, loc, .stay, .missing hdir hlength hdot hdots hnone⟩
    | cons step front =>
      obtain ⟨_, hafter⟩ := List.cons.inj hsteps
      exact absurd (List.append_eq_nil_iff.mp hafter).2 hrest
  | @link links loc name after place target hdir hlength hdot hdots htarget htail ih =>
    cases front with
    | nil =>
      obtain rfl : rest = _ := hsteps
      exact ⟨links + 1, loc, .stay, .link hdir hlength hdot hdots htarget htail⟩
    | cons step front =>
      obtain ⟨rfl, rfl⟩ := List.cons.inj hsteps
      obtain ⟨left, mid, hfront, hrest⟩ := ih (List.append_assoc _ _ _)
      exact ⟨left, mid, .link hdir hlength hdot hdots htarget hfront, hrest⟩
  | @entry links loc name after place entry hdir hlength hdot hdots hentry hlink htail ih =>
    cases front with
    | nil =>
      obtain rfl : rest = _ := hsteps
      exact ⟨links, loc, .stay, .entry hdir hlength hdot hdots hentry hlink htail⟩
    | cons step front =>
      obtain ⟨rfl, hafter⟩ := List.cons.inj hsteps
      obtain ⟨left, mid, hfront, hrest⟩ := ih hafter
      exact ⟨left, mid, .entry hdir hlength hdot hdots hentry hlink hfront, hrest⟩

/-- A slash at the end of a path asks for the directory that the steps before it lead to. -/
theorem Walks.writtenSteps {path : Path}
    (h : store.Walks links start path.steps (.found mid)) :
    store.Walks links start path.writtenSteps (.found mid) := by
  rw [Path.steps_eq] at h
  split at h
  · obtain ⟨left, dir, hwritten, hdot⟩ := h.exists_found (List.cons_ne_nil _ _)
    cases hdot with
    | dot _ hstay =>
      cases hstay
      exact hwritten
    | link _ _ hdot => exact absurd rfl hdot
    | entry _ _ hdot => exact absurd rfl hdot
  · rwa [List.append_nil] at h

end Walks

section Resolve

variable {path : Path}

theorem fault?_eq_none_iff : path.fault? = none ↔
    0 ∉ path.bytes ∧ path.bytes ≠ [] ∧ path.bytes.length < Path.lengthLimit := by
  rw [Path.fault?]
  split_ifs with hzero hnil hlong
  · simp [hzero]
  · simp [hnil]
  · simp [Nat.not_lt.mpr hlong]
  · simp [hzero, hnil, Nat.not_le.mp hlong]

theorem resolve_eq_ok_iff : store.resolve cwd path = .ok loc ↔ path.fault? = none ∧
    store.Walks linkLimit (if path.isAbsolute then [] else cwd) path.steps (.found loc) := by
  rw [resolve, place]
  cases hfault : path.fault? with
  | some cause => simp
  | none =>
    simp only [true_and]
    constructor
    · intro h
      split at h
      · next found hwalk =>
        cases h
        exact walks_of_walk hwalk
      · cases h
      · cases h
    · intro h
      rw [h.walk_eq]

theorem resolve_of_fault {cause : OsError} (h : path.fault? = some cause) :
    store.resolve cwd path = .error cause := by
  rw [resolve, place, h]

theorem isDir_iff : store.isDir cwd path = true ↔
    ∃ loc, store.resolve cwd path = .ok loc ∧ store.get? loc = some .dir := by
  rw [isDir, decide_eq_true_iff, entryAt?]
  cases store.resolve cwd path <;> simp

theorem Walks.congr (hsame : ∀ loc, other.get? loc = store.get? loc) {links : Nat}
    {start : Location} {steps : List Name} {place : Place}
    (h : store.Walks links start steps place) : other.Walks links start steps place := by
  induction h with
  | stay => exact .stay
  | dot hdir _ ih => exact .dot ((hsame _).trans hdir) ih
  | dots hdir _ ih => exact .dots ((hsame _).trans hdir) ih
  | missing hdir hlength hdot hdots hnone =>
    exact .missing ((hsame _).trans hdir) hlength hdot hdots ((hsame _).trans hnone)
  | link hdir hlength hdot hdots htarget _ ih =>
    exact .link ((hsame _).trans hdir) hlength hdot hdots ((hsame _).trans htarget) ih
  | entry hdir hlength hdot hdots hentry hlink _ ih =>
    exact .entry ((hsame _).trans hdir) hlength hdot hdots ((hsame _).trans hentry) hlink ih

theorem resolve_congr (hsame : ∀ loc, other.get? loc = store.get? loc)
    (h : store.resolve cwd path = .ok loc) : other.resolve cwd path = .ok loc := by
  obtain ⟨hfault, hwalk⟩ := resolve_eq_ok_iff.mp h
  exact resolve_eq_ok_iff.mpr ⟨hfault, hwalk.congr hsame⟩

theorem readText_congr {start : Location}
    (hresolve : other.resolve start path = store.resolve cwd path)
    (hget : ∀ loc, store.resolve cwd path = .ok loc → other.get? loc = store.get? loc) :
    other.readText start path = store.readText cwd path := by
  have hbytes : other.readBytes start path = store.readBytes cwd path := by
    rw [readBytes, readBytes, hresolve]
    cases hloc : store.resolve cwd path with
    | error cause => rfl
    | ok loc => simp only [hget loc hloc]
  rw [readText, readText, hbytes]

theorem readText_of_file {content : ByteArray} (hresolve : store.resolve cwd path = .ok loc)
    (hfile : store.get? loc = some (.file content)) :
    store.readText cwd path = (String.fromUTF8? content).elim (.error .notUtf8) .ok := by
  have hread : store.readBytes cwd path = .ok content := by simp [readBytes, hresolve, hfile]
  simp only [readText, hread]
  cases String.fromUTF8? content <;> rfl

end Resolve

section Descent

variable (h : store.IsTidyBelow loc)
include h

/-- All that leads to an entry is there. -/
theorem IsTidyBelow.isEntryName_of_mem (hget : store.get? (loc ++ names) ≠ none) :
    ∀ name ∈ names, IsEntryName name := by
  induction names using List.reverseRecOn with
  | nil => nofun
  | append_singleton names name ih =>
    rw [← List.append_assoc] at hget
    have hdir := h.tree _ name hget
    rw [List.forall_mem_append]
    refine ⟨ih (by simp [hdir]), ?_⟩
    rw [List.forall_mem_singleton]
    exact h.names names name hget

theorem IsTidyBelow.get?_dir {front rest : List Name}
    (hget : store.get? (loc ++ (front ++ rest)) ≠ none) (hrest : rest ≠ []) :
    store.get? (loc ++ front) = some .dir := by
  induction rest using List.reverseRecOn with
  | nil => exact absurd rfl hrest
  | append_singleton rest name ih =>
    rw [← List.append_assoc, ← List.append_assoc] at hget
    have hdir := h.tree _ name hget
    by_cases hnil : rest = []
    · rwa [hnil, List.append_nil] at hdir
    · exact ih (by simp [← List.append_assoc, hdir]) hnil

theorem IsTidyBelow.walks (hget : store.get? (loc ++ names) ≠ none) (links : Nat) :
    store.Walks links loc names (.found (loc ++ names)) := by
  induction names using List.reverseRecOn with
  | nil => rw [List.append_nil]; exact .stay
  | append_singleton names name ih =>
    have hname := h.isEntryName_of_mem hget name (by simp)
    obtain ⟨entry, hentry⟩ := Option.ne_none_iff_exists'.mp hget
    have hlink : ∀ target, entry ≠ .link target := by
      rintro target rfl
      exact h.links _ target hentry
    have hdir : store.get? (loc ++ names) = some .dir := h.get?_dir hget (List.cons_ne_nil _ _)
    rw [← List.append_assoc] at hentry
    have hlast : ∀ links, store.Walks links (loc ++ names) [name]
        (.found (loc ++ (names ++ [name]))) := by
      intro links
      rw [← List.append_assoc]
      exact .entry hdir hname.short hname.plain.ne_dot hname.plain.ne_dots hentry hlink .stay
    exact (ih (by simp [hdir])).append hlast

/-- A path into the tree leads to the entry of its names, unless it is too long to be looked up. -/
theorem IsTidyBelow.resolve_descend (hdir : store.resolve cwd dir = .ok loc)
    (hget : store.get? (loc ++ names) ≠ none) : store.resolve cwd (dir.descend names) =
      if (dir.descend names).bytes.length < Path.lengthLimit then .ok (loc ++ names)
      else .error .nameTooLong := by
  by_cases hnil : names = []
  · subst hnil
    have hlength := (fault?_eq_none_iff.mp (resolve_eq_ok_iff.mp hdir).1).2.2
    rw [Path.descend_nil, List.append_nil, hdir, if_pos hlength]
  obtain ⟨hfault, hwalk⟩ := resolve_eq_ok_iff.mp hdir
  obtain ⟨hzero, hne, _⟩ := fault?_eq_none_iff.mp hfault
  have hentries := h.isEntryName_of_mem hget
  have hplain : ∀ name ∈ names, IsPlainName name := fun name hname => (hentries name hname).plain
  have hzero' : 0 ∉ (dir.descend names).bytes := by
    rwa [Path.zero_mem_descend_iff fun name hname =>
      ⟨(hentries name hname).plain, (hentries name hname).zero_not_mem⟩]
  have hne' : (dir.descend names).bytes ≠ [] := by
    have hlonger := Path.length_descend_le dir [] hplain
    rw [List.nil_append, Path.descend_nil] at hlonger
    have hpos := List.length_pos_iff.mpr hne
    exact List.length_pos_iff.mp (by omega)
  split
  · next hlength =>
    refine resolve_eq_ok_iff.mpr ⟨fault?_eq_none_iff.mpr ⟨hzero', hne', hlength⟩, ?_⟩
    rw [Path.isAbsolute_descend hplain, Path.steps_descend hplain hnil]
    exact hwalk.writtenSteps.append (h.walks hget)
  · next hlength =>
    apply resolve_of_fault
    rw [Path.fault?, if_neg hzero', if_neg hne', if_pos (Nat.not_lt.mp hlength)]

theorem IsTidyBelow.isDir_descend_iff (hdir : store.resolve cwd dir = .ok loc)
    (hget : store.get? (loc ++ names) ≠ none) : store.isDir cwd (dir.descend names) = true ↔
      (dir.descend names).bytes.length < Path.lengthLimit ∧
        store.get? (loc ++ names) = some .dir := by
  rw [isDir_iff, h.resolve_descend hdir hget]
  split
  · next hlength => simp [hlength]
  · next hlength => simp [hlength]

end Descent

end Store
end TypedQuery

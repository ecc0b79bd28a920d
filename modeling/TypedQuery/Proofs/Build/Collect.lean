import TypedQuery.Proofs.Build.Listing
import TypedQuery.Proofs.Store.Change

/-! What collecting gives for a directory tree. -/
namespace TypedQuery.Build

/-- The names lead from the location to a file that is a query's by its name. -/
structure IsQueryFile (store : Store) (loc : Location) (names : List Name) : Prop where
  named : EndsInSql names
  file : ∃ content, store.get? (loc ++ names) = some (.file content)

/-- What collecting has to give for the files below a directory: their units in the order of their
paths, or what is wrong with the first of them that holds no text. -/
structure Collects (host : Host) (dir : Path) (loc : Location) (files : List (List Name))
    (result : Except Failure (List SourceUnit)) : Prop where
  sorted : files.Pairwise (· < ·)
  mem_iff : ∀ names, names ∈ files ↔ IsQueryFile host.store loc names
  ok_iff : ∀ units, result = .ok units ↔ List.Forall₂ (fun names unit => ∃ name text,
    names.getLast? = some name ∧
      host.store.get? (loc ++ names) = some (.file (text : String).toByteArray) ∧
      unit = .ofFile (Text.lossy name) text) files units
  error_iff : ∀ failure, result = .error failure ↔ ∃ before names after content,
    files = before ++ names :: after ∧
      (∀ earlier ∈ before, ∃ text : String,
        host.store.get? (loc ++ earlier) = some (.file text.toByteArray)) ∧
      host.store.get? (loc ++ names) = some (.file content) ∧
      String.fromUTF8? content = none ∧ failure = .io (dir.descend names) .notUtf8

/-- No path to an entry with a name of SQL is too long to be looked up. -/
def ShortSqlPaths (store : Store) (dir : Path) (loc : Location) : Prop :=
  ∀ names, EndsInSql names → store.get? (loc ++ names) ≠ none →
    (dir.descend names).bytes.length < Path.lengthLimit

/-- Below the location there are only new directories, and of those with names of SQL none has too
long a path. All else is as before. -/
def OnlyNewDirs (before after : Store) (dir : Path) (loc : Location) : Prop :=
  ∀ names, after.get? (loc ++ names) = before.get? (loc ++ names) ∨
    before.get? (loc ++ names) = none ∧ after.get? (loc ++ names) = some .dir ∧
      (EndsInSql names → (dir.descend names).bytes.length < Path.lengthLimit)

variable {host other : Host} {dir : Path} {loc : Location} {names : List Name} {unit : SourceUnit}
  {failure : Failure}

section Each

variable {α β : Type} {f g : α → Except Failure β} {list : List α}

theorem mapM_eq_ok_iff {results : List β} :
    list.mapM f = .ok results ↔ List.Forall₂ (fun a b => f a = .ok b) list results := by
  induction list generalizing results with
  | nil =>
    rw [List.mapM_nil, List.forall₂_nil_left_iff]
    exact ⟨fun h => (Except.ok.inj h).symm, fun h => by rw [h]; rfl⟩
  | cons a list ih =>
    rw [List.mapM_cons, List.forall₂_cons_left_iff]
    cases hfirst : f a with
    | error failure =>
      refine iff_of_false nofun ?_
      rintro ⟨b, _, hb, _⟩
      cases hb
    | ok b =>
      constructor
      · intro h
        cases hrest : list.mapM f with
        | error failure =>
          rw [hrest] at h
          cases h
        | ok rest =>
          rw [hrest] at h
          cases h
          exact ⟨b, rest, rfl, ih.mp hrest, rfl⟩
      · rintro ⟨_, rest, hb, hrest, rfl⟩
        cases hb
        rw [ih.mpr hrest]
        rfl

theorem mapM_eq_error_iff : list.mapM f = .error failure ↔ ∃ before a after,
    list = before ++ a :: after ∧ (∀ earlier ∈ before, ∃ b, f earlier = .ok b) ∧
      f a = .error failure := by
  induction list with
  | nil =>
    refine iff_of_false nofun ?_
    rintro ⟨before, a, after, hlist, _⟩
    exact absurd hlist.symm (by simp)
  | cons a list ih =>
    rw [List.mapM_cons]
    cases hfirst : f a with
    | error cause =>
      constructor
      · intro h
        cases h
        exact ⟨[], a, list, rfl, nofun, hfirst⟩
      · rintro ⟨before, stopped, after, hlist, hbefore, hstopped⟩
        cases before with
        | nil =>
          obtain ⟨rfl, rfl⟩ := List.cons.inj hlist
          rw [hfirst] at hstopped
          cases hstopped
          rfl
        | cons earlier before =>
          obtain ⟨rfl, -⟩ := List.cons.inj hlist
          obtain ⟨b, hb⟩ := hbefore a List.mem_cons_self
          rw [hfirst] at hb
          cases hb
    | ok b =>
      have hrest : (do let b ← Except.ok b; let rest ← list.mapM f; pure (b :: rest) :
          Except Failure (List β)) = .error failure ↔ list.mapM f = .error failure := by
        cases list.mapM f with
        | error cause => exact Iff.rfl
        | ok rest => exact iff_of_false nofun nofun
      rw [hrest, ih]
      constructor
      · rintro ⟨before, stopped, after, rfl, hbefore, hstopped⟩
        exact ⟨a :: before, stopped, after, rfl,
          List.forall_mem_cons.mpr ⟨⟨b, hfirst⟩, hbefore⟩, hstopped⟩
      · rintro ⟨before, stopped, after, hlist, hbefore, hstopped⟩
        cases before with
        | nil =>
          obtain ⟨rfl, -⟩ := List.cons.inj hlist
          rw [hfirst] at hstopped
          cases hstopped
        | cons earlier before =>
          obtain ⟨rfl, rfl⟩ := List.cons.inj hlist
          exact ⟨before, stopped, after, rfl, (List.forall_mem_cons.mp hbefore).2, hstopped⟩

theorem mapM_congr (h : ∀ a ∈ list, f a = g a) : list.mapM f = list.mapM g := by
  induction list with
  | nil => rfl
  | cons a list ih =>
    obtain ⟨hfirst, hrest⟩ := List.forall_mem_cons.mp h
    rw [List.mapM_cons, List.mapM_cons, hfirst, ih hrest]

theorem forall₂_congr {R S : α → β → Prop} {results : List β}
    (h : ∀ a ∈ list, ∀ b, R a b ↔ S a b) :
    List.Forall₂ R list results ↔ List.Forall₂ S list results := by
  have hzip : ∀ {a b}, (a, b) ∈ list.zip results → (R a b ↔ S a b) :=
    fun {a b} hmem => h a (List.of_mem_zip hmem).1 b
  rw [List.forall₂_iff_zip, List.forall₂_iff_zip]
  constructor
  · rintro ⟨hlength, hR⟩
    exact ⟨hlength, fun hmem => (hzip hmem).mp (hR hmem)⟩
  · rintro ⟨hlength, hS⟩
    exact ⟨hlength, fun hmem => (hzip hmem).mpr (hS hmem)⟩

end Each

section Tree

variable (h : host.store.IsTidyBelow loc) (hdir : host.store.resolve host.cwd dir = .ok loc)
include h

theorem isListed_iff (hshort : ShortSqlPaths host.store dir loc) :
    IsListed host.store dir loc names ↔ IsQueryFile host.store loc names := by
  constructor
  · intro hlisted
    refine ⟨hlisted.named, ?_⟩
    cases hget : host.store.get? (loc ++ names) with
    | none => exact absurd hget hlisted.there
    | some entry =>
      cases entry with
      | file content => exact ⟨content, rfl⟩
      | dir => exact absurd ⟨hshort names hlisted.named hlisted.there, hget⟩ hlisted.not_entered
      | link target => exact absurd hget (h.links names target)
  · intro hquery
    obtain ⟨name, hlast, -⟩ := hquery.named
    obtain ⟨content, hfile⟩ := hquery.file
    have hthere : host.store.get? (loc ++ names) ≠ none := by
      rw [hfile]
      nofun
    have hnot : ¬ IsEntered host.store dir loc names := by
      rintro ⟨-, hdir⟩
      rw [hfile] at hdir
      cases hdir
    have hlength := hshort names hquery.named hthere
    refine ⟨hthere, hquery.named, ?_, hnot⟩
    obtain ⟨front, rfl⟩ := List.getLast?_eq_some_iff.mp hlast
    have hlonger := Path.length_descend_le dir front
      (List.forall_mem_singleton.mpr (h.isEntryName_of_mem hthere name (by simp)).plain)
    rw [List.dropLast_concat]
    exact ⟨by omega, h.get?_dir hthere (List.cons_ne_nil _ _)⟩

include hdir

theorem readSource_of_file {name : Name} {content : ByteArray}
    (hlength : (dir.descend names).bytes.length < Path.lengthLimit)
    (hlast : names.getLast? = some name)
    (hfile : host.store.get? (loc ++ names) = some (.file content)) :
    readSource host (dir.descend names) = (String.fromUTF8? content).elim
      (.error (.io (dir.descend names) .notUtf8)) fun text =>
        .ok (.ofFile (Text.lossy name) text) := by
  have hthere : host.store.get? (loc ++ names) ≠ none := by
    rw [hfile]
    nofun
  have hresolve := h.resolve_descend hdir hthere
  rw [if_pos hlength] at hresolve
  have hplain : ∀ name ∈ names, IsPlainName name :=
    fun name hname => (h.isEntryName_of_mem hthere name hname).plain
  rw [readSource, Host.readText, Store.readText_of_file hresolve hfile,
    Path.fileName_descend hplain hlast]
  cases String.fromUTF8? content <;> rfl

variable (hshort : ShortSqlPaths host.store dir loc)
  (hquery : IsQueryFile host.store loc names)
include hshort hquery

theorem readSource_eq_ok_iff : readSource host (dir.descend names) = .ok unit ↔
    ∃ name text, names.getLast? = some name ∧
      host.store.get? (loc ++ names) = some (.file (text : String).toByteArray) ∧
      unit = .ofFile (Text.lossy name) text := by
  obtain ⟨name, hlast, -⟩ := hquery.named
  obtain ⟨content, hfile⟩ := hquery.file
  have hlength := hshort names hquery.named (by simp [hfile])
  rw [readSource_of_file h hdir hlength hlast hfile, hlast, hfile]
  cases hdecode : String.fromUTF8? content with
  | some text =>
    obtain rfl := Store.fromUTF8?_eq_some_iff.mp hdecode
    constructor
    · intro hunit
      cases hunit
      exact ⟨name, text, rfl, rfl, rfl⟩
    · rintro ⟨_, other, hname, htext, rfl⟩
      cases hname
      rw [String.toByteArray_inj.mp (Entry.file.inj (Option.some.inj htext))]
      rfl
  | none =>
    refine iff_of_false nofun ?_
    rintro ⟨_, text, _, htext, _⟩
    cases htext
    rw [Store.fromUTF8?_eq_some_iff.mpr rfl] at hdecode
    cases hdecode

theorem exists_readSource_iff : (∃ unit, readSource host (dir.descend names) = .ok unit) ↔
    ∃ text : String, host.store.get? (loc ++ names) = some (.file text.toByteArray) := by
  simp only [readSource_eq_ok_iff h hdir hshort hquery]
  constructor
  · rintro ⟨_, _, text, _, hfile, _⟩
    exact ⟨text, hfile⟩
  · rintro ⟨text, hfile⟩
    obtain ⟨name, hlast, -⟩ := hquery.named
    exact ⟨_, name, text, hlast, hfile, rfl⟩

theorem readSource_eq_error_iff : readSource host (dir.descend names) = .error failure ↔
    ∃ content, host.store.get? (loc ++ names) = some (.file content) ∧
      String.fromUTF8? content = none ∧ failure = .io (dir.descend names) .notUtf8 := by
  obtain ⟨name, hlast, -⟩ := hquery.named
  obtain ⟨content, hfile⟩ := hquery.file
  have hlength := hshort names hquery.named (by simp [hfile])
  rw [readSource_of_file h hdir hlength hlast hfile, hfile]
  cases hdecode : String.fromUTF8? content with
  | some text =>
    refine iff_of_false nofun ?_
    rintro ⟨_, hcontent, hnone, _⟩
    cases hcontent
    rw [hdecode] at hnone
    cases hnone
  | none =>
    constructor
    · intro hfailure
      cases hfailure
      exact ⟨content, rfl, hdecode, rfl⟩
    · rintro ⟨_, _, _, rfl⟩
      rfl

end Tree

section Result

theorem isDir_of_get? (hdir : host.store.resolve host.cwd dir = .ok loc)
    (hget : host.store.get? loc = some .dir) : host.isDir dir = true :=
  Store.isDir_iff.mpr ⟨loc, hdir, hget⟩

theorem collect_of_not_isDir (h : ¬ host.isDir dir = true) : collect host dir = .ok [] := by
  rw [collect, if_neg h]

theorem collect_of_files {files : List (List Name)} (h : host.isDir dir = true)
    (hpaths : (sqlPaths host dir).mergeSort precedes = files.map dir.descend) :
    collect host dir = files.mapM fun names => readSource host (dir.descend names) := by
  rw [collect, if_pos h, hpaths, List.mapM_map]
  rfl

theorem exists_collects (h : host.store.IsTidyBelow loc)
    (hdir : host.store.resolve host.cwd dir = .ok loc) (hget : host.store.get? loc = some .dir)
    (hshort : ShortSqlPaths host.store dir loc) :
    ∃ files, Collects host dir loc files (collect host dir) := by
  obtain ⟨files, hpaths, hsorted, hlisted⟩ := exists_files h hdir hget
  have hmem : ∀ names, names ∈ files ↔ IsQueryFile host.store loc names :=
    fun names => (hlisted names).trans (isListed_iff h hshort)
  have hcollect := collect_of_files (isDir_of_get? hdir hget) hpaths
  refine ⟨files, hsorted, hmem, fun units => ?_, fun failure => ?_⟩
  · rw [hcollect, mapM_eq_ok_iff]
    exact forall₂_congr fun names hnames unit =>
      readSource_eq_ok_iff h hdir hshort ((hmem names).mp hnames)
  · have hread := fun names hnames => exists_readSource_iff h hdir hshort ((hmem names).mp hnames)
    have hfail : ∀ names ∈ files, (readSource host (dir.descend names) = .error failure ↔ _) :=
      fun names hnames => readSource_eq_error_iff h hdir hshort ((hmem names).mp hnames)
    rw [hcollect, mapM_eq_error_iff]
    constructor
    · rintro ⟨before, names, after, rfl, hbefore, hstopped⟩
      obtain ⟨content, hstopped⟩ := (hfail names (by simp)).mp hstopped
      refine ⟨before, names, after, content, rfl, fun earlier hmem => ?_, hstopped⟩
      exact (hread earlier (List.mem_append_left _ hmem)).mp (hbefore earlier hmem)
    · rintro ⟨before, names, after, content, rfl, hbefore, hstopped⟩
      have hstopped := (hfail names (by simp)).mpr ⟨content, hstopped⟩
      refine ⟨before, names, after, rfl, fun earlier hmem => ?_, hstopped⟩
      exact (hread earlier (List.mem_append_left _ hmem)).mpr (hbefore earlier hmem)

end Result

section Order

theorem eq_of_pairwise_lt {a b : List (List Name)} (ha : a.Pairwise (· < ·))
    (hb : b.Pairwise (· < ·)) (hmem : ∀ names, names ∈ a ↔ names ∈ b) : a = b := by
  have hne : ∀ {x y : List Name}, x < y → x ≠ y := by
    rintro x _ hlt rfl
    exact List.lt_irrefl x hlt
  have hperm : a.Perm b := (List.perm_ext_iff_of_nodup (ha.imp hne) (hb.imp hne)).mpr hmem
  exact hperm.eq_of_pairwise (fun x y _ _ hlt hgt => absurd hgt (List.lt_asymm hlt)) ha hb

/-- What is listed is listed in any file system that has the same entry there. -/
theorem IsListed.of_get?_eq {store after : Store} (hlisted : IsListed store dir loc names)
    (h : after.IsTidyBelow loc) (hget : after.get? (loc ++ names) = store.get? (loc ++ names)) :
    IsListed after dir loc names := by
  have hthere : after.get? (loc ++ names) ≠ none := hget ▸ hlisted.there
  obtain ⟨name, hlast, -⟩ := hlisted.named
  obtain ⟨front, rfl⟩ := List.getLast?_eq_some_iff.mp hlast
  refine ⟨hthere, hlisted.named, ⟨hlisted.parent.1, ?_⟩, ?_⟩
  · rw [List.dropLast_concat]
    exact h.get?_dir hthere (List.cons_ne_nil _ _)
  · rw [IsEntered, hget]
    exact hlisted.not_entered

variable (hsame : OnlyNewDirs host.store other.store dir loc) (h : host.store.IsTidyBelow loc)
  (h' : other.store.IsTidyBelow loc)
include hsame

theorem OnlyNewDirs.get?_eq (hthere : host.store.get? (loc ++ names) ≠ none) :
    other.store.get? (loc ++ names) = host.store.get? (loc ++ names) :=
  (hsame names).resolve_right fun hnew => hthere hnew.1

include h h'

theorem OnlyNewDirs.isListed_iff :
    IsListed other.store dir loc names ↔ IsListed host.store dir loc names := by
  constructor
  · intro hlisted
    refine hlisted.of_get?_eq h ((hsame names).resolve_right ?_).symm
    rintro ⟨-, hnew, hlength⟩
    exact hlisted.not_entered ⟨hlength hlisted.named, hnew⟩
  · intro hlisted
    exact hlisted.of_get?_eq h' (hsame.get?_eq hlisted.there)

/-- What is collected depends only on the files below the directory, and on no order. -/
theorem OnlyNewDirs.collect_eq (hdir : host.store.resolve host.cwd dir = .ok loc)
    (hdir' : other.store.resolve other.cwd dir = .ok loc) (hget : host.store.get? loc = some .dir) :
    collect other dir = collect host dir := by
  have hget' : other.store.get? loc = some .dir := by
    have hroot : other.store.get? (loc ++ []) = _ := hsame.get?_eq (by simp [hget])
    rwa [List.append_nil, hget] at hroot
  obtain ⟨files, hpaths, hsorted, hmem⟩ := exists_files h hdir hget
  obtain ⟨files', hpaths', hsorted', hmem'⟩ := exists_files h' hdir' hget'
  obtain rfl : files' = files := by
    refine eq_of_pairwise_lt hsorted' hsorted fun names => ?_
    rw [hmem, hmem', hsame.isListed_iff h h']
  rw [collect_of_files (isDir_of_get? hdir hget) hpaths,
    collect_of_files (isDir_of_get? hdir' hget') hpaths']
  apply mapM_congr
  intro names hnames
  have hthere := ((hmem names).mp hnames).there
  have hresolve := h.resolve_descend hdir hthere
  have hresolve' := h'.resolve_descend hdir' ((hmem' names).mp hnames).there
  have hread : other.readText (dir.descend names) = host.readText (dir.descend names) := by
    refine Store.readText_congr (hresolve'.trans hresolve.symm) ?_
    intro found hfound
    rw [hresolve] at hfound
    split at hfound
    · cases hfound
      exact hsame.get?_eq hthere
    · cases hfound
  rw [readSource, readSource, hread]

end Order

/-- Collecting finds the files with names of SQL below a directory, whatever the order in which its
directories are listed, and nothing where there is no directory. -/
theorem collects_queryFiles (host : Host) (dir : Path) (hproper : host.store.IsProper)
    (hlinks : ∀ loc, host.store.resolve host.cwd dir = .ok loc → host.store.NoLinksBelow loc)
    (hshort : ∀ loc, host.store.resolve host.cwd dir = .ok loc →
      ShortSqlPaths host.store dir loc) :
    (host.isDir dir = false → collect host dir = .ok []) ∧
    (∀ loc, host.store.resolve host.cwd dir = .ok loc → host.store.get? loc = some .dir →
      ∃ files, Collects host dir loc files (collect host dir)) ∧
    ∀ listing : Store, listing.entries.Perm host.store.entries →
      collect { host with store := listing } dir = collect host dir := by
  refine ⟨?_, fun loc hdir hget => ?_, fun listing hperm => ?_⟩
  · exact fun hisdir => collect_of_not_isDir (by simp [hisdir])
  · exact exists_collects (hproper.isTidyBelow (hlinks loc hdir)) hdir hget (hshort loc hdir)
  · have hsame := Store.get?_eq_of_perm hproper.nodup hperm
    by_cases hisdir : host.isDir dir = true
    · obtain ⟨loc, hdir, hget⟩ := Store.isDir_iff.mp hisdir
      have hlinks' : listing.NoLinksBelow loc := by
        intro names target
        rw [hsame]
        exact hlinks loc hdir names target
      have honly : OnlyNewDirs host.store listing dir loc :=
        fun names => .inl (hsame (loc ++ names))
      exact OnlyNewDirs.collect_eq honly (hproper.isTidyBelow (hlinks loc hdir))
        ((hproper.perm hperm).isTidyBelow hlinks') hdir (Store.resolve_congr hsame hdir) hget
    · have hisdir' : ¬ Host.isDir { host with store := listing } dir = true := by
        intro hisdir'
        obtain ⟨loc, hdir, hget⟩ := Store.isDir_iff.mp hisdir'
        have hback : ∀ loc, host.store.get? loc = listing.get? loc := fun loc => (hsame loc).symm
        exact hisdir (isDir_of_get? (Store.resolve_congr hback hdir) ((hback loc).trans hget))
      rw [collect_of_not_isDir hisdir, collect_of_not_isDir hisdir']

/-- A query in a directory of its own. -/
def nestedStore : Store :=
  ((Store.empty.set [utf8 "q"] .dir).set [utf8 "q", utf8 "directory"] .dir).set
    [utf8 "q", utf8 "directory", utf8 "a.sql"] (.file "select 1".toByteArray)

theorem nestedStore_isProper : nestedStore.IsProper := by
  have hdir : ∀ target, Entry.dir ≠ .link target := nofun
  have hq : IsEntryName (utf8 "q") := by decide +kernel
  have hdirectory : IsEntryName (utf8 "directory") := by decide +kernel
  have hfile : IsEntryName (utf8 "a.sql") := by decide +kernel
  have hfirst := Store.isProper_empty.set [] (Store.get?_nil _) hq hdir (.inl (by decide +kernel))
  have hsecond := hfirst.set [utf8 "q"] (by decide +kernel) hdirectory hdir
    (.inl (by decide +kernel))
  exact hsecond.set [utf8 "q", utf8 "directory"] (by decide +kernel) hfile nofun
    (.inl (by decide +kernel))

theorem nestedStore_linkFree : nestedStore.LinkFree := by
  have hdir : ∀ target, Entry.dir ≠ .link target := nofun
  exact ((Store.linkFree_empty.set (by simp) hdir).set (by simp) hdir).set (by simp) nofun

theorem nestedStore_names {names : List Name}
    (h : nestedStore.get? ([utf8 "q"] ++ names) ≠ none) :
    names ∈ [[], [utf8 "directory"], [utf8 "directory", utf8 "a.sql"]] := by
  obtain ⟨entry, hentry⟩ := (Store.get?_ne_none_iff (List.cons_ne_nil _ _)).mp h
  have hentries : nestedStore.entries.map (·.1) =
      [[utf8 "q"], [utf8 "q", utf8 "directory"], [utf8 "q", utf8 "directory", utf8 "a.sql"]] := by
    decide +kernel
  have hmem := List.mem_map_of_mem (f := (·.1)) hentry
  rw [hentries] at hmem
  simpa using hmem

def nestedHost : Host := ⟨nestedStore, [], []⟩

theorem isQueryFile_nestedStore :
    IsQueryFile nestedStore [utf8 "q"] [utf8 "directory", utf8 "a.sql"] where
  named := ⟨utf8 "a.sql", rfl, [0x61], 0x73, 0x71, 0x6c, by simp, by decide +kernel, by simp,
    by simp, by simp⟩
  file := ⟨"select 1".toByteArray, by decide +kernel⟩

theorem collects_queryFiles_nested : ∃ loc,
    nestedStore.resolve [] (.ofString "q") = .ok loc ∧ nestedStore.get? loc = some .dir ∧
    IsQueryFile nestedStore loc [utf8 "directory", utf8 "a.sql"] ∧
    (∃ files, Collects nestedHost (.ofString "q") loc files
      (collect nestedHost (.ofString "q"))) ∧
    ∀ listing : Store, listing.entries.Perm nestedStore.entries →
      collect { nestedHost with store := listing } (.ofString "q") =
        collect nestedHost (.ofString "q") := by
  have hdir : nestedStore.resolve [] (.ofString "q") = .ok [utf8 "q"] := by decide +kernel
  have hshort : ∀ loc, nestedStore.resolve [] (.ofString "q") = .ok loc →
      ShortSqlPaths nestedStore (.ofString "q") loc := by
    intro loc hloc names _ hthere
    obtain rfl : [utf8 "q"] = loc := Except.ok.inj (hdir.symm.trans hloc)
    have hlengths : ∀ names ∈ [[], [utf8 "directory"], [utf8 "directory", utf8 "a.sql"]],
        ((Path.ofString "q").descend names).bytes.length < Path.lengthLimit := by decide +kernel
    exact hlengths names (nestedStore_names hthere)
  have hall := collects_queryFiles nestedHost (.ofString "q") nestedStore_isProper
    (fun loc _ => nestedStore_linkFree.noLinksBelow loc) hshort
  have hget : nestedStore.get? [utf8 "q"] = some .dir := by decide +kernel
  exact ⟨_, hdir, hget, isQueryFile_nestedStore, hall.2.1 _ hdir hget, hall.2.2⟩

/-- The directory with slashes behind its name. -/
def slashedPath (slashes : Nat) : Path := ⟨utf8 "q" ++ List.replicate slashes Path.slash⟩

theorem slashedPath_length (n : Nat) : (slashedPath n).bytes.length = n + 1 := by
  have hq : (utf8 "q").length = 1 := by decide +kernel
  rw [slashedPath, List.length_append, List.length_replicate, hq, Nat.add_comm]

theorem slashedPath_resolve {n : Nat} (hpos : 0 < n) (hlength : n + 1 < Path.lengthLimit) :
    nestedStore.resolve [] (slashedPath n) = .ok [utf8 "q"] := by
  obtain ⟨n, rfl⟩ := Nat.exists_eq_add_of_lt hpos
  have hq : utf8 "q" = [0x71] := by decide +kernel
  have hsteps : (slashedPath (0 + n + 1)).steps = [utf8 "q", [Path.dot]] := by
    have hwritten : (slashedPath (0 + n + 1)).writtenSteps = (Path.ofString "q").writtenSteps :=
      Path.writtenSteps_append_slashes (utf8 "q") _
    have htrailing : (slashedPath (0 + n + 1)).hasTrailingSlash = true := by
      simp [slashedPath, Path.hasTrailingSlash, List.replicate_succ', List.getLast?_append]
    rw [Path.steps_eq, hwritten, htrailing]
    decide +kernel
  have hrelative : (slashedPath (0 + n + 1)).isAbsolute = false := by
    rw [slashedPath, hq]
    rfl
  refine Store.resolve_eq_ok_iff.mpr ⟨Store.fault?_eq_none_iff.mpr ⟨?_, ?_, ?_⟩, ?_⟩
  · simp [slashedPath, hq, Path.slash]
  · simp [slashedPath, hq]
  · rwa [slashedPath_length]
  · rw [hsteps, hrelative]
    exact Store.walks_of_walk (by decide +kernel)

/-- With so many slashes that the directory in it is not entered. -/
theorem collect_slashedPath {n : Nat} (hpos : Path.lengthLimit ≤ n + 10)
    (hlength : n + 1 < Path.lengthLimit) : collect nestedHost (slashedPath n) = .ok [] := by
  have hdir : nestedHost.store.resolve nestedHost.cwd (slashedPath n) = .ok [utf8 "q"] :=
    slashedPath_resolve (by rw [Path.lengthLimit] at hpos; omega) hlength
  have hget : nestedHost.store.get? [utf8 "q"] = some .dir := by decide +kernel
  have htidy : nestedHost.store.IsTidyBelow [utf8 "q"] :=
    nestedStore_isProper.isTidyBelow (nestedStore_linkFree.noLinksBelow _)
  obtain ⟨files, hpaths, -, hlisted⟩ := exists_files htidy hdir hget
  have hnone : files = [] := by
    rw [List.eq_nil_iff_forall_not_mem]
    intro names hnames
    obtain ⟨hthere, ⟨name, hlast, hsql⟩, hparent, -⟩ := (hlisted names).mp hnames
    have hcases := nestedStore_names hthere
    simp only [List.mem_cons, List.not_mem_nil, or_false] at hcases
    rcases hcases with rfl | rfl | rfl
    · cases hlast
    · obtain rfl : utf8 "directory" = name := Option.some.inj hlast
      obtain ⟨stem, s, q, l, -, hname, -⟩ := hsql
      have hdot : Path.dot ∈ utf8 "directory" := by
        rw [hname]
        simp
      exact absurd hdot (by decide +kernel)
    · have hplain := (htidy.isEntryName_of_mem hthere (utf8 "directory") (by simp)).plain
      have hdirectory : (utf8 "directory").length = 9 := by decide +kernel
      have hshort : ((slashedPath n).join ⟨utf8 "directory"⟩).bytes.length < Path.lengthLimit :=
        hparent.1
      rcases Path.bytes_join (slashedPath n) hplain with hbytes | hbytes <;>
        rw [hbytes, List.length_append, slashedPath_length] at hshort <;>
        simp only [List.length_cons, hdirectory] at hshort <;> omega
  rw [collect_of_files (isDir_of_get? hdir hget) hpaths, hnone]
  rfl

theorem not_collects_slashedPath : nestedStore.IsProper ∧ nestedStore.LinkFree ∧
    nestedStore.resolve [] (slashedPath 4090) = .ok [utf8 "q"] ∧
    nestedStore.get? [utf8 "q"] = some .dir ∧
    ¬ ∃ files, Collects nestedHost (slashedPath 4090) [utf8 "q"] files
      (collect nestedHost (slashedPath 4090)) := by
  refine ⟨nestedStore_isProper, nestedStore_linkFree, slashedPath_resolve (by decide) (by decide),
    by decide +kernel, ?_⟩
  rintro ⟨files, hcollects⟩
  have hempty := collect_slashedPath (n := 4090) (by decide) (by decide)
  have hfiles : files = [] := List.forall₂_nil_right_iff.mp ((hcollects.ok_iff []).mp hempty)
  have hmem := (hcollects.mem_iff _).mpr isQueryFile_nestedStore
  rw [hfiles] at hmem
  exact List.not_mem_nil hmem

end TypedQuery.Build

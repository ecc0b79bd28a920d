import TypedQuery.Build.Collect
import TypedQuery.Proofs.Path.Extension
import TypedQuery.Proofs.Store.Tree
import Mathlib.Data.List.Perm.Basic

/-! Which paths are found by their names in a directory tree. -/
namespace TypedQuery

/-- A stem, a dot and `sql` in any case. -/
def IsSqlName (name : Name) : Prop :=
  ∃ stem s q l, stem ≠ [] ∧ name = stem ++ [Path.dot, s, q, l] ∧
    s ∈ [0x53, 0x73] ∧ q ∈ [0x51, 0x71] ∧ l ∈ [0x4c, 0x6c]

/-- The last of the names is one of SQL. -/
def EndsInSql (names : List Name) : Prop := ∃ name, names.getLast? = some name ∧ IsSqlName name

namespace Build

/-- The names lead from the location to a directory whose entries are listed. One with too long a
path is not. -/
def IsEntered (store : Store) (dir : Path) (loc : Location) (names : List Name) : Prop :=
  (dir.descend names).bytes.length < Path.lengthLimit ∧ store.get? (loc ++ names) = some .dir

/-- The names lead from the location to an entry that is found by its name. -/
structure IsListed (store : Store) (dir : Path) (loc : Location) (names : List Name) : Prop where
  there : store.get? (loc ++ names) ≠ none
  named : EndsInSql names
  parent : IsEntered store dir loc names.dropLast
  not_entered : ¬ IsEntered store dir loc names

variable {host : Host} {dir path : Path} {loc : Location} {name : Name} {names front : List Name}
  {depth : Nat}

section Names

theorem lower_eq_iff {upper lower : UInt8}
    (h : upper + 0x20 = lower ∧ 0x61 ≤ lower ∧ lower ≤ 0x7a) (b : UInt8) :
    (if 0x41 ≤ b ∧ b ≤ 0x5a then b + 0x20 else b) = lower ↔ b ∈ [upper, lower] := by
  simp only [List.mem_cons, List.not_mem_nil, or_false]
  grind

theorem append_le_append_left_iff {a b c : List Name} : a ++ b ≤ a ++ c ↔ b ≤ c := by
  induction a with
  | nil => rfl
  | cons name a ih =>
    rw [List.cons_append, List.cons_append, List.cons_le_cons_iff]
    simp [ih, List.lt_irrefl]

theorem map_lower_eq_sql_iff {ext : Name} :
    ext.map (fun b => if 0x41 ≤ b ∧ b ≤ 0x5a then b + 0x20 else b) = utf8 "sql" ↔
      ∃ s q l, ext = [s, q, l] ∧ s ∈ [0x53, 0x73] ∧ q ∈ [0x51, 0x71] ∧ l ∈ [0x4c, 0x6c] := by
  have hsql : utf8 "sql" = [0x73, 0x71, 0x6c] := by decide +kernel
  have hs := lower_eq_iff (show (0x53 : UInt8) + 0x20 = 0x73 ∧ _ from by decide)
  have hq := lower_eq_iff (show (0x51 : UInt8) + 0x20 = 0x71 ∧ _ from by decide)
  have hl := lower_eq_iff (show (0x4c : UInt8) + 0x20 = 0x6c ∧ _ from by decide)
  rw [hsql]
  constructor
  · intro h
    obtain ⟨s, rest, rfl, hfirst, h⟩ := List.map_eq_cons_iff.mp h
    obtain ⟨q, rest, rfl, hsecond, h⟩ := List.map_eq_cons_iff.mp h
    obtain ⟨l, rest, rfl, hthird, h⟩ := List.map_eq_cons_iff.mp h
    obtain rfl := List.map_eq_nil_iff.mp h
    exact ⟨s, q, l, rfl, (hs s).mp hfirst, (hq q).mp hsecond, (hl l).mp hthird⟩
  · rintro ⟨s, q, l, rfl, hfirst, hsecond, hthird⟩
    rw [List.map_cons, List.map_cons, List.map_cons, List.map_nil, (hs s).mpr hfirst,
      (hq q).mpr hsecond, (hl l).mpr hthird]

theorem isSqlPath_iff (hname : path.fileName = some name) :
    isSqlPath path = true ↔ IsSqlName name := by
  rw [isSqlPath, Path.extension, hname, Option.bind_some, Option.any_eq_true]
  simp only [decide_eq_true_iff, map_lower_eq_sql_iff]
  constructor
  · rintro ⟨ext, hext, s, q, l, rfl, hletters⟩
    obtain ⟨-, stem, hstem, rfl⟩ := Path.splitExtension_eq_some_iff.mp hext
    exact ⟨stem, s, q, l, hstem, rfl, hletters⟩
  · rintro ⟨stem, s, q, l, hstem, rfl, hs, hq, hl⟩
    refine ⟨[s, q, l], Path.splitExtension_eq_some_iff.mpr ⟨?_, stem, hstem, rfl⟩,
      s, q, l, rfl, hs, hq, hl⟩
    simp only [List.mem_cons, List.not_mem_nil, or_false] at hs hq hl
    rcases hs with rfl | rfl <;> rcases hq with rfl | rfl <;> rcases hl with rfl | rfl <;> decide

end Names

section Listing

/-- The SQL paths at an entry and below it. -/
def sqlPathsAt (host : Host) (depth : Nat) (path : Path) : List Path :=
  if host.isDir path then sqlPathsWithin host depth path else if isSqlPath path then [path] else []

theorem sqlPathsWithin_succ (h : host.store.resolve host.cwd path = .ok loc) :
    sqlPathsWithin host (depth + 1) path =
      (host.store.children loc).flatMap fun name => sqlPathsAt host depth (path.join ⟨name⟩) := by
  rw [sqlPathsWithin, h]
  rfl

variable (h : host.store.IsTidyBelow loc) (hdir : host.store.resolve host.cwd dir = .ok loc)
include h

theorem IsEntered.of_append (hbelow : host.store.get? (loc ++ (front ++ names)) ≠ none)
    (hentered : IsEntered host.store dir loc (front ++ names)) :
    IsEntered host.store dir loc front := by
  have hplain : ∀ name ∈ names, IsPlainName name := fun name hname =>
    (h.isEntryName_of_mem hbelow name (List.mem_append_right front hname)).plain
  refine ⟨Nat.lt_of_le_of_lt ?_ hentered.1, ?_⟩
  · exact (Nat.le_add_right _ _).trans (Path.length_descend_le dir front hplain)
  · by_cases hnil : names = []
    · subst hnil
      have hhere := hentered.2
      rwa [List.append_nil] at hhere
    · exact h.get?_dir hbelow hnil

theorem IsListed.isPlainName (hlisted : IsListed host.store dir loc names) :
    ∀ name ∈ names, IsPlainName name :=
  fun name hname => (h.isEntryName_of_mem hlisted.there name hname).plain

/-- What is listed further down is listed on the way through directories. -/
theorem IsListed.entered_of_append (hlisted : IsListed host.store dir loc (front ++ names))
    (hnames : names ≠ []) : IsEntered host.store dir loc front := by
  have hparent := hlisted.parent
  rw [List.dropLast_append_of_ne_nil hnames] at hparent
  refine hparent.of_append h ?_
  rw [hparent.2]
  nofun

theorem isSqlPath_descend_iff (hget : host.store.get? (loc ++ (front ++ [name])) ≠ none) :
    isSqlPath (dir.descend (front ++ [name])) = true ↔ IsSqlName name := by
  have hplain : ∀ part ∈ front ++ [name], IsPlainName part :=
    fun part hpart => (h.isEntryName_of_mem hget part hpart).plain
  exact isSqlPath_iff (Path.fileName_descend hplain List.getLast?_concat)

theorem lengthLimit_le_of_child (hget : host.store.get? (loc ++ (front ++ [name])) ≠ none)
    (hdepth : Path.lengthLimit ≤ (dir.descend front).bytes.length + (depth + 1)) :
    Path.lengthLimit ≤ (dir.descend (front ++ [name])).bytes.length + depth := by
  have hname := (h.isEntryName_of_mem hget name (by simp)).plain
  have hlonger := Path.length_lt_join (dir.descend front) hname
  rw [Path.descend_concat]
  omega

include hdir

theorem IsEntered.resolve_eq (hfront : IsEntered host.store dir loc front) :
    host.store.resolve host.cwd (dir.descend front) = .ok (loc ++ front) := by
  rw [h.resolve_descend hdir (by simp [hfront.2]), if_pos hfront.1]

theorem isDir_descend_iff_isEntered (hget : host.store.get? (loc ++ names) ≠ none) :
    host.isDir (dir.descend names) = true ↔ IsEntered host.store dir loc names :=
  h.isDir_descend_iff hdir hget

/-- The paths at an entry of a directory are those that are listed on the way through it. -/
theorem mem_sqlPathsAt_of (hget : host.store.get? (loc ++ (front ++ [name])) ≠ none)
    (hfront : IsEntered host.store dir loc front)
    (hbelow : IsEntered host.store dir loc (front ++ [name]) → ∀ path,
      path ∈ sqlPathsWithin host depth (dir.descend (front ++ [name])) ↔
        ∃ rest, rest ≠ [] ∧ IsListed host.store dir loc (front ++ [name] ++ rest) ∧
          path = dir.descend (front ++ [name] ++ rest)) :
    path ∈ sqlPathsAt host depth (dir.descend (front ++ [name])) ↔
      ∃ rest, IsListed host.store dir loc (front ++ [name] ++ rest) ∧
        path = dir.descend (front ++ [name] ++ rest) := by
  have hisdir := isDir_descend_iff_isEntered h hdir hget
  rw [sqlPathsAt]
  by_cases hentered : IsEntered host.store dir loc (front ++ [name])
  · rw [if_pos (hisdir.mpr hentered), hbelow hentered]
    constructor
    · rintro ⟨rest, -, hlisted⟩
      exact ⟨rest, hlisted⟩
    · rintro ⟨rest, hlisted, rfl⟩
      refine ⟨rest, ?_, hlisted, rfl⟩
      rintro rfl
      have hnot := hlisted.not_entered
      rw [List.append_nil] at hnot
      exact hnot hentered
  · rw [if_neg fun hdir => hentered (hisdir.mp hdir)]
    constructor
    · intro hmem
      split at hmem
      · next hsql =>
        have hname := (isSqlPath_descend_iff h hget).mp hsql
        rw [List.mem_singleton] at hmem
        refine ⟨[], ?_, by rw [List.append_nil, hmem]⟩
        rw [List.append_nil]
        exact ⟨hget, ⟨name, List.getLast?_concat, hname⟩, by rwa [List.dropLast_concat], hentered⟩
      · exact absurd hmem List.not_mem_nil
    · rintro ⟨rest, hlisted, rfl⟩
      by_cases hrest : rest = []
      · subst hrest
        rw [List.append_nil] at hlisted ⊢
        obtain ⟨last, hlast, hname⟩ := hlisted.named
        rw [List.getLast?_concat] at hlast
        cases hlast
        rw [if_pos ((isSqlPath_descend_iff h hget).mpr hname)]
        exact List.mem_singleton_self _
      · exact absurd (hlisted.entered_of_append h hrest) hentered

/-- A path is never as long as the depth that is left would allow, so the depth does not run out. -/
theorem mem_sqlPathsWithin_iff (hfront : IsEntered host.store dir loc front)
    (hdepth : Path.lengthLimit ≤ (dir.descend front).bytes.length + depth) :
    path ∈ sqlPathsWithin host depth (dir.descend front) ↔
      ∃ rest, rest ≠ [] ∧ IsListed host.store dir loc (front ++ rest) ∧
        path = dir.descend (front ++ rest) := by
  induction depth generalizing front path with
  | zero => exact absurd hfront.1 (Nat.not_lt.mpr hdepth)
  | succ depth ih =>
    have hresolve := hfront.resolve_eq h hdir
    have hat : ∀ name, host.store.get? (loc ++ (front ++ [name])) ≠ none →
        (path ∈ sqlPathsAt host depth (dir.descend (front ++ [name])) ↔
          ∃ rest, IsListed host.store dir loc (front ++ [name] ++ rest) ∧
            path = dir.descend (front ++ [name] ++ rest)) := by
      intro name hget
      exact mem_sqlPathsAt_of h hdir hget hfront fun hentered path =>
        ih hentered (lengthLimit_le_of_child h hget hdepth)
    rw [sqlPathsWithin_succ hresolve, List.mem_flatMap]
    simp only [← Path.descend_concat, Store.mem_children_iff, List.append_assoc]
    constructor
    · rintro ⟨name, hget, hmem⟩
      obtain ⟨rest, hlisted, rfl⟩ := (hat name hget).mp hmem
      rw [List.append_assoc, List.singleton_append] at hlisted ⊢
      exact ⟨name :: rest, List.cons_ne_nil _ _, hlisted, rfl⟩
    · rintro ⟨rest, hrest, hlisted, hpath⟩
      obtain ⟨name, rest, rfl⟩ := List.exists_cons_of_ne_nil hrest
      rw [← List.singleton_append, ← List.append_assoc] at hlisted hpath
      have hget : host.store.get? (loc ++ (front ++ [name])) ≠ none := by
        by_cases hnil : rest = []
        · subst hnil
          have hthere := hlisted.there
          rwa [List.append_nil] at hthere
        · rw [(hlisted.entered_of_append h hnil).2]
          nofun
      exact ⟨name, hget, (hat name hget).mpr ⟨rest, hlisted, hpath⟩⟩

theorem mem_sqlPathsAt_iff (hget : host.store.get? (loc ++ (front ++ [name])) ≠ none)
    (hfront : IsEntered host.store dir loc front)
    (hdepth : Path.lengthLimit ≤ (dir.descend front).bytes.length + (depth + 1)) :
    path ∈ sqlPathsAt host depth (dir.descend (front ++ [name])) ↔
      ∃ rest, IsListed host.store dir loc (front ++ [name] ++ rest) ∧
        path = dir.descend (front ++ [name] ++ rest) :=
  mem_sqlPathsAt_of h hdir hget hfront fun hentered _ =>
    mem_sqlPathsWithin_iff h hdir hentered (lengthLimit_le_of_child h hget hdepth)

theorem sqlPathsWithin_nodup (hfront : IsEntered host.store dir loc front)
    (hdepth : Path.lengthLimit ≤ (dir.descend front).bytes.length + depth) :
    (sqlPathsWithin host depth (dir.descend front)).Nodup := by
  induction depth generalizing front with
  | zero => exact absurd hfront.1 (Nat.not_lt.mpr hdepth)
  | succ depth ih =>
    rw [sqlPathsWithin_succ (hfront.resolve_eq h hdir), List.nodup_flatMap]
    simp only [← Path.descend_concat]
    have hchild : ∀ name ∈ host.store.children (loc ++ front),
        host.store.get? (loc ++ (front ++ [name])) ≠ none := by
      intro name hname
      rwa [Store.mem_children_iff, List.append_assoc] at hname
    constructor
    · intro name hname
      rw [sqlPathsAt]
      split
      · next hisdir =>
        have hentered := (isDir_descend_iff_isEntered h hdir (hchild name hname)).mp hisdir
        exact ih hentered (lengthLimit_le_of_child h (hchild name hname) hdepth)
      · split
        · exact List.nodup_singleton _
        · exact List.nodup_nil
    · refine (h.nodup (loc ++ front)).imp_of_mem ?_
      intro a b ha hb hne path hpath hpath'
      obtain ⟨rest, hlisted, rfl⟩ :=
        (mem_sqlPathsAt_iff h hdir (hchild a ha) hfront hdepth).mp hpath
      obtain ⟨rest', hlisted', hsame⟩ :=
        (mem_sqlPathsAt_iff h hdir (hchild b hb) hfront hdepth).mp hpath'
      rw [Path.descend_inj (hlisted.isPlainName h) (hlisted'.isPlainName h), List.append_assoc,
        List.append_assoc] at hsame
      exact hne (List.cons.inj (List.append_cancel_left hsame)).1

end Listing

section Files

variable (h : host.store.IsTidyBelow loc) (hdir : host.store.resolve host.cwd dir = .ok loc)
  (hget : host.store.get? loc = some .dir)
include hdir hget

theorem isEntered_nil : IsEntered host.store dir loc [] := by
  have hlength := (Store.fault?_eq_none_iff.mp (Store.resolve_eq_ok_iff.mp hdir).1).2.2
  exact ⟨hlength, by rwa [List.append_nil]⟩

include h

theorem mem_sqlPaths_iff : path ∈ sqlPaths host dir ↔
    ∃ names, IsListed host.store dir loc names ∧ path = dir.descend names := by
  have hwithin : path ∈ sqlPathsWithin host Path.lengthLimit (dir.descend []) ↔ _ :=
    mem_sqlPathsWithin_iff h hdir (isEntered_nil hdir hget) (Nat.le_add_left _ _)
  rw [sqlPaths]
  refine hwithin.trans ⟨?_, ?_⟩
  · rintro ⟨names, -, hnames⟩
    exact ⟨names, hnames⟩
  · rintro ⟨names, hlisted, rfl⟩
    refine ⟨names, ?_, hlisted, rfl⟩
    rintro rfl
    obtain ⟨name, hlast, -⟩ := hlisted.named
    cases hlast

theorem sqlPaths_nodup : (sqlPaths host dir).Nodup :=
  sqlPathsWithin_nodup h hdir (isEntered_nil hdir hget) (Nat.le_add_left _ _)

/-- The paths in their order are those of the listed names in the order of the names. -/
theorem exists_files : ∃ files : List (List Name),
    (sqlPaths host dir).mergeSort precedes = files.map dir.descend ∧
    files.Pairwise (· < ·) ∧ ∀ names, names ∈ files ↔ IsListed host.store dir loc names := by
  have hsorted : ((sqlPaths host dir).mergeSort precedes).Pairwise
      fun a b => a.names ≤ b.names := by
    have htrans : ∀ a b c, precedes a b = true → precedes b c = true → precedes a c = true := by
      intro a b c hab hbc
      rw [precedes, decide_eq_true_iff] at hab hbc ⊢
      exact List.le_trans hab hbc
    have htotal : ∀ a b, (precedes a b || precedes b a) = true := by
      intro a b
      rw [Bool.or_eq_true, precedes, precedes, decide_eq_true_iff, decide_eq_true_iff]
      exact List.le_total a.names b.names
    exact (List.pairwise_mergeSort htrans htotal _).imp of_decide_eq_true
  have hnodup := ((sqlPaths host dir).mergeSort_perm precedes).nodup_iff.mpr
    (sqlPaths_nodup h hdir hget)
  have hmem : ∀ {path}, path ∈ (sqlPaths host dir).mergeSort precedes ↔
      ∃ names, IsListed host.store dir loc names ∧ path = dir.descend names :=
    fun {path} => List.mem_mergeSort.trans (mem_sqlPaths_iff h hdir hget)
  generalize (sqlPaths host dir).mergeSort precedes = sorted at hsorted hnodup hmem
  -- The names below `dir` are told from the path, since those of `dir` come first in it.
  have hdrop : ∀ {names}, IsListed host.store dir loc names →
      (dir.descend names).names.drop dir.names.length = names := by
    intro names hlisted
    rw [Path.names_descend (hlisted.isPlainName h), List.drop_left]
  refine ⟨sorted.map fun path => path.names.drop dir.names.length, ?_, ?_, ?_⟩
  · rw [List.map_map]
    have hback : ∀ path ∈ sorted,
        (dir.descend ∘ fun path => path.names.drop dir.names.length) path = id path := by
      intro path hpath
      obtain ⟨names, hlisted, rfl⟩ := hmem.mp hpath
      rw [Function.comp_apply, hdrop hlisted, id]
    rw [List.map_congr_left hback, List.map_id]
  · rw [List.pairwise_map]
    refine (hsorted.and hnodup).imp_of_mem ?_
    rintro a b ha hb ⟨hle, hne⟩
    obtain ⟨names, hlisted, rfl⟩ := hmem.mp ha
    obtain ⟨names', hlisted', rfl⟩ := hmem.mp hb
    rw [hdrop hlisted, hdrop hlisted']
    rw [Path.names_descend (hlisted.isPlainName h), Path.names_descend (hlisted'.isPlainName h),
      append_le_append_left_iff] at hle
    exact Std.lt_of_le_of_ne hle fun hsame => hne (by rw [hsame])
  · intro names
    rw [List.mem_map]
    constructor
    · rintro ⟨path, hpath, rfl⟩
      obtain ⟨names, hlisted, rfl⟩ := hmem.mp hpath
      rwa [hdrop hlisted]
    · intro hlisted
      exact ⟨_, hmem.mpr ⟨names, hlisted, rfl⟩, hdrop hlisted⟩

end Files

end Build
end TypedQuery

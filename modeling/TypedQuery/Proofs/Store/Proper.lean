import TypedQuery.Proofs.Store.Change
import TypedQuery.Proofs.Store.Tree

/-! What is made and written leaves a file system proper. -/
namespace TypedQuery

namespace Path

variable {path : Path} {name : Name}

/-- A step of a path that can be looked up is the name of an entry, unless it is dots. -/
theorem isEntryName_of_mem_writtenSteps (hfault : path.fault? = none)
    (h : name ∈ path.writtenSteps) (hlength : name.length ≤ Store.nameLimit)
    (hdot : name ≠ [dot]) (hdots : name ≠ [dot, dot]) : IsEntryName name := by
  obtain ⟨hpart, hne⟩ := List.mem_filter.mp h
  have hzero := (Store.fault?_eq_none_iff.mp hfault).1
  refine ⟨⟨by simpa using hne, ?_, hdot, hdots⟩, hlength, ?_⟩
  · exact fun hslash => (Text.mem_of_mem_splitOn hpart hslash).2 rfl
  · exact fun hmem => hzero (Text.mem_of_mem_splitOn hpart hmem).1

end Path

namespace Store

variable {store after : Store} {cwd loc : Location} {path : Path} {name : Name}
  {content : ByteArray}

section Directories

theorem LacksEntry.isEntryName {dir : Location} (h : store.LacksEntry cwd path dir name) :
    IsEntryName name :=
  Path.isEntryName_of_mem_writtenSteps h.fault (List.mem_of_getLast? h.last) h.short h.ne_dot
    h.ne_dots

theorem makeDir_isProper (hproper : store.IsProper) (h : store.makeDir cwd path = .ok after) :
    after.IsProper := by
  unfold makeDir at h
  split at h
  · cases h
  · cases h
  next loc hplace =>
    cases h
    obtain ⟨dir, name, rfl, hlacks⟩ := lacksEntry_of_entryPlace hplace
    exact hproper.set dir hlacks.parent hlacks.isEntryName nofun (.inl hlacks.missing)

theorem ensureDir_isProper (hproper : store.IsProper) (cwd : Location) (path : Path) :
    (store.ensureDir cwd path).2.IsProper := by
  unfold ensureDir
  split
  · next after hmake => exact makeDir_isProper hproper hmake
  · exact hproper

theorem ensureChain_isProper (hproper : store.IsProper) (cwd : Location) (paths : List Path) :
    (store.ensureChain cwd paths).2.IsProper := by
  induction paths with
  | nil => exact hproper
  | cons path parents ih =>
    unfold ensureChain
    split
    · exact hproper
    · split
      · split
        · next made hchain =>
          rw [hchain] at ih
          exact ih
        · next made hchain =>
          rw [hchain] at ih
          exact ensureDir_isProper ih cwd path
      · exact ensureDir_isProper hproper cwd path

theorem makeDirs_isProper (hproper : store.IsProper) (cwd : Location) (path : Path) :
    (store.makeDirs cwd path).2.IsProper :=
  ensureChain_isProper hproper cwd _

end Directories

section Files

/-- Without links, the name that is missing at the end of the steps is one of them. -/
theorem Walks.missing_mem {links : Nat} {start : Location} {steps : List Name} {place : Place}
    (h : store.Walks links start steps place) (hlinks : store.LinkFree)
    (hplace : place = .missing (loc ++ [name])) :
    name ∈ steps ∧ name.length ≤ nameLimit ∧ name ≠ [Path.dot] ∧ name ≠ [Path.dot, Path.dot] := by
  induction h with
  | stay => cases hplace
  | dot _ _ ih =>
    obtain ⟨hmem, hname⟩ := ih hplace
    exact ⟨List.mem_cons_of_mem _ hmem, hname⟩
  | dots _ _ ih =>
    obtain ⟨hmem, hname⟩ := ih hplace
    exact ⟨List.mem_cons_of_mem _ hmem, hname⟩
  | missing _ hlength hdot hdots _ =>
    rw [Place.missing.injEq] at hplace
    obtain rfl := (List.cons.inj (List.append_inj' hplace rfl).2).1
    exact ⟨List.mem_cons_self, hlength, hdot, hdots⟩
  | link _ _ _ _ htarget _ _ => exact absurd htarget (hlinks _ _)
  | entry _ _ _ _ _ _ _ ih =>
    obtain ⟨hmem, hname⟩ := ih hplace
    exact ⟨List.mem_cons_of_mem _ hmem, hname⟩

/-- Where a file is missing and may be made, it gets a name that an entry can have. -/
theorem Leads.isEntryName (h : store.Leads cwd path (loc ++ [name])) (htree : store.IsTree)
    (hlinks : store.LinkFree) (hnone : store.get? (loc ++ [name]) = none) : IsEntryName name := by
  obtain ⟨place, hplace, hloc⟩ := h
  have hwalk := walks_of_place hplace
  have hmissing : place = .missing (loc ++ [name]) := by
    rcases hwalk.entry_at htree (.inl (Path.steps_ne_nil (place_ne_nil hplace))) with
      ⟨dir, child, rfl, -⟩ | ⟨entry, -, hget, -⟩
    · exact congrArg Place.missing hloc
    · rw [hloc, hnone] at hget
      cases hget
  obtain ⟨hmem, hlength, hdot, hdots⟩ := hwalk.missing_mem hlinks hmissing
  have hfault : path.fault? = none := by
    unfold Store.place at hplace
    split at hplace
    · cases hplace
    · assumption
  have hwritten : name ∈ path.writtenSteps := by
    rw [Path.steps_eq, List.mem_append] at hmem
    refine hmem.resolve_right fun hlast => ?_
    split at hlast
    · exact hdot (List.mem_singleton.mp hlast)
    · cases hlast
  exact Path.isEntryName_of_mem_writtenSteps hfault hwritten hlength hdot hdots

theorem writeBytes_isProper (hproper : store.IsProper) (hlinks : store.LinkFree)
    (h : store.writeBytes cwd path content = .ok after) : after.IsProper := by
  obtain ⟨dir, name, hleads, rfl, hdir, hold⟩ := writeBytes_eq_set hproper.tree h
  have hname : IsEntryName name := by
    rcases hold with hnone | ⟨old, hold⟩
    · exact hleads.isEntryName hproper.tree hlinks hnone
    · exact hproper.names dir name (by simp [hold])
  have hnew : ∀ target, Entry.file content ≠ .link target := nofun
  apply hproper.set dir hdir hname hnew
  rcases hold with hnone | ⟨old, hold⟩
  · exact .inl hnone
  · exact .inr ⟨old, content, hold, rfl⟩

end Files

end Store
end TypedQuery

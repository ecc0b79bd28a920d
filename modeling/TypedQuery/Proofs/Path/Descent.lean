import TypedQuery.Proofs.Path.Step
import Mathlib.Data.List.Induction

/-! Paths with several names put behind them. -/
namespace TypedQuery.Path

/-- The path that goes on from `dir` by these names. -/
def descend (dir : Path) (names : List Name) : Path :=
  names.foldl (fun path name => path.join ⟨name⟩) dir

variable {dir : Path} {name : Name} {names front : List Name}

@[simp] theorem descend_nil (dir : Path) : dir.descend [] = dir := rfl

theorem descend_concat (dir : Path) (names : List Name) (name : Name) :
    dir.descend (names ++ [name]) = (dir.descend names).join ⟨name⟩ := List.foldl_concat _ _ _ _

section Length

theorem bytes_join (dir : Path) (h : IsPlainName name) :
    (dir.join ⟨name⟩).bytes = dir.bytes ++ name ∨
      (dir.join ⟨name⟩).bytes = dir.bytes ++ slash :: name := by
  rw [join, if_neg (by simp [isAbsolute_of_isPlainName h])]
  split
  · exact .inl rfl
  · exact .inr rfl

theorem length_lt_join (dir : Path) (h : IsPlainName name) :
    dir.bytes.length < (dir.join ⟨name⟩).bytes.length := by
  have hname : 0 < name.length := List.length_pos_iff.mpr h.ne_nil
  rcases bytes_join dir h with hbytes | hbytes <;>
    simp only [hbytes, List.length_append, List.length_cons] <;> omega

/-- A path is longer than each that it goes on from. -/
theorem length_descend_le (dir : Path) (front : List Name) (h : ∀ name ∈ names, IsPlainName name) :
    (dir.descend front).bytes.length + names.length ≤
      (dir.descend (front ++ names)).bytes.length := by
  induction names using List.reverseRecOn with
  | nil => rw [List.append_nil]; exact Nat.le_refl _
  | append_singleton names name ih =>
    obtain ⟨hnames, hname⟩ := List.forall_mem_append.mp h
    have hlast := length_lt_join (dir.descend (front ++ names)) (hname name (by simp))
    have hbefore := ih hnames
    rw [← List.append_assoc, descend_concat, List.length_append, List.length_singleton]
    omega

theorem zero_mem_descend_iff (h : ∀ name ∈ names, IsPlainName name ∧ 0 ∉ name) :
    0 ∈ (dir.descend names).bytes ↔ 0 ∈ dir.bytes := by
  induction names using List.reverseRecOn with
  | nil => exact Iff.rfl
  | append_singleton names name ih =>
    obtain ⟨hnames, hname⟩ := List.forall_mem_append.mp h
    obtain ⟨hplain, hzero⟩ := hname name (by simp)
    rw [descend_concat, ← ih hnames]
    have hslash : (0 : UInt8) ≠ slash := by decide
    rcases bytes_join (dir.descend names) hplain with hbytes | hbytes <;>
      simp [hbytes, hzero, hslash]

end Length

section Names

variable (h : ∀ name ∈ names, IsPlainName name)
include h

theorem isAbsolute_descend : (dir.descend names).isAbsolute = dir.isAbsolute := by
  induction names using List.reverseRecOn with
  | nil => rfl
  | append_singleton names name ih =>
    obtain ⟨hnames, hname⟩ := List.forall_mem_append.mp h
    rw [descend_concat, isAbsolute_join (hname name (by simp)), ih hnames]

theorem writtenSteps_descend : (dir.descend names).writtenSteps = dir.writtenSteps ++ names := by
  induction names using List.reverseRecOn with
  | nil => rw [List.append_nil]; rfl
  | append_singleton names name ih =>
    obtain ⟨hnames, hname⟩ := List.forall_mem_append.mp h
    rw [descend_concat, writtenSteps_join (hname name (by simp)), ih hnames, List.append_assoc]

theorem steps_descend (hne : names ≠ []) :
    (dir.descend names).steps = dir.writtenSteps ++ names := by
  obtain ⟨front, name, rfl⟩ := (List.eq_nil_or_concat' names).resolve_left hne
  obtain ⟨hfront, hname⟩ := List.forall_mem_append.mp h
  rw [descend_concat, steps_join (hname name (by simp)), writtenSteps_descend hfront,
    List.append_assoc]

/-- The names that a path goes on by are its last ones. -/
theorem names_descend : (dir.descend names).names = dir.names ++ names := by
  have hfilter : ∀ path : Path, path.names = path.writtenSteps.filter (· ≠ [dot]) := by
    intro path
    rw [Path.names, parts, writtenSteps, List.filter_filter]
    apply List.filter_congr
    intro part _
    rw [Bool.and_comm]
    simp
  have hkept : names.filter (· ≠ [dot]) = names := by
    apply List.filter_eq_self.mpr
    intro name hname
    simpa using (h name hname).ne_dot
  rw [hfilter, hfilter, writtenSteps_descend h, List.filter_append, hkept]

theorem fileName_descend (hlast : names.getLast? = some name) :
    (dir.descend names).fileName = some name := by
  have hname := h name (List.mem_of_getLast? hlast)
  change (dir.descend names).names.getLast?.filter (· ≠ [dot, dot]) = some name
  rw [names_descend h, List.getLast?_append, hlast, Option.some_or]
  exact Option.filter_some_pos (by simpa using hname.ne_dots)

end Names

/-- Slashes at the end are not written steps. -/
theorem writtenSteps_append_slashes (bytes : List UInt8) (n : Nat) :
    (Path.mk (bytes ++ List.replicate n slash)).writtenSteps = (Path.mk bytes).writtenSteps := by
  induction n with
  | zero => rw [List.replicate_zero, List.append_nil]
  | succ n ih =>
    rw [← ih, List.replicate_succ', ← List.append_assoc, writtenSteps, writtenSteps,
      List.splitOn_append_cons_self, List.splitOn_nil, List.filter_append]
    simp

theorem descend_inj {other : List Name} (h : ∀ name ∈ names, IsPlainName name)
    (hother : ∀ name ∈ other, IsPlainName name) :
    dir.descend names = dir.descend other ↔ names = other := by
  refine ⟨fun heq => ?_, fun heq => by rw [heq]⟩
  have hnames := congrArg Path.names heq
  rw [names_descend h, names_descend hother] at hnames
  exact List.append_cancel_left hnames

end TypedQuery.Path

import TypedQuery.Proofs.Text.Split
import TypedQuery.Store.Walk
import Mathlib.Data.List.Basic

/-! The steps of paths, and of a path with a name put behind it. -/
namespace TypedQuery

/-- A name that leads from a directory to an entry in it. -/
structure IsPlainName (name : Name) : Prop where
  ne_nil : name ≠ []
  slash_not_mem : Path.slash ∉ name
  ne_dot : name ≠ [Path.dot]
  ne_dots : name ≠ [Path.dot, Path.dot]

namespace Path

/-- The steps that are written in a path. -/
def writtenSteps (path : Path) : List Name := (path.bytes.splitOn slash).filter (· ≠ [])

theorem steps_eq (path : Path) :
    path.steps = path.writtenSteps ++ if path.hasTrailingSlash then [[dot]] else [] := rfl

theorem steps_ne_nil {path : Path} (h : path.bytes ≠ []) : path.steps ≠ [] := by
  intro hnil
  rw [steps_eq, List.append_eq_nil_iff] at hnil
  obtain ⟨hwritten, htrailing⟩ := hnil
  obtain ⟨front, last, hbytes⟩ := (List.eq_nil_or_concat' path.bytes).resolve_left h
  have hlast : last ≠ slash := by
    rintro rfl
    have hends : path.hasTrailingSlash := by simp [hasTrailingSlash, hbytes]
    simp [hends] at htrailing
  have hmem : last ∈ path.bytes := by simp [hbytes]
  obtain ⟨part, hpart, hin⟩ := Text.exists_mem_splitOn_iff.mpr ⟨hmem, hlast⟩
  have hkept : part ∈ path.writtenSteps :=
    List.mem_filter.mpr ⟨hpart, by simpa using List.ne_nil_of_mem hin⟩
  rw [hwritten] at hkept
  cases hkept

section Join

variable {path : Path} {name : Name}

theorem isAbsolute_of_isPlainName (h : IsPlainName name) : (Path.mk name).isAbsolute = false := by
  cases name with
  | nil => rfl
  | cons b name =>
    have hb : b ≠ slash := fun heq => h.slash_not_mem (heq ▸ List.mem_cons_self)
    simpa [isAbsolute] using hb

theorem components_of_isPlainName (h : IsPlainName name) : (Path.mk name).components = [name] := by
  have hparts : name.splitOn slash = [name] := List.splitOn_eq_singleton h.slash_not_mem
  have hnames : (Path.mk name).names = [name] := by
    rw [names, parts, hparts]
    simp [h.ne_nil, h.ne_dot]
  rw [components, isAbsolute_of_isPlainName h, if_neg Bool.false_ne_true, hparts]
  dsimp only
  rw [if_neg h.ne_dot, hnames]

theorem isAbsolute_join (h : IsPlainName name) :
    (path.join ⟨name⟩).isAbsolute = path.isAbsolute := by
  rw [join, if_neg (by simp [isAbsolute_of_isPlainName h])]
  cases hbytes : path.bytes with
  | nil =>
    rw [if_pos (.inl rfl), List.nil_append, isAbsolute_of_isPlainName h, isAbsolute, hbytes]
    rfl
  | cons b bytes => split <;> simp [isAbsolute, hbytes]

theorem hasTrailingSlash_join (h : IsPlainName name) :
    (path.join ⟨name⟩).hasTrailingSlash = false := by
  obtain ⟨front, last, rfl⟩ := (List.eq_nil_or_concat' name).resolve_left h.ne_nil
  have hlast : last ≠ slash := by
    rintro rfl
    exact h.slash_not_mem (by simp)
  rw [join, if_neg (by simp [isAbsolute_of_isPlainName h])]
  split <;> simp [hasTrailingSlash, List.getLast?_append, List.getLast?_cons, hlast]

theorem writtenSteps_join (h : IsPlainName name) :
    (path.join ⟨name⟩).writtenSteps = path.writtenSteps ++ [name] := by
  have hname : name.splitOn slash = [name] := List.splitOn_eq_singleton h.slash_not_mem
  have hkept : [name].filter (· ≠ []) = [name] := by simp [h.ne_nil]
  rw [join, if_neg (by simp [isAbsolute_of_isPlainName h])]
  split
  case isTrue hbase =>
    rcases hbase with hnil | htrailing
    · simp only [writtenSteps, hnil, List.nil_append, List.splitOn_nil, hname, hkept]
      rfl
    · -- The part behind the last slash of the base is empty, and the name takes its place.
      have hends : path.bytes.getLast? = some slash := by simpa [hasTrailingSlash] using htrailing
      obtain ⟨front, hbytes⟩ := List.getLast?_eq_some_iff.mp hends
      simp only [writtenSteps, hbytes, List.append_assoc, List.singleton_append,
        List.splitOn_append_cons_self, hname, List.splitOn_nil, List.filter_append, hkept]
      simp
  case isFalse =>
    simp only [writtenSteps, List.splitOn_append_cons_self, hname, List.filter_append, hkept]

theorem join_ne (h : IsPlainName name) : path.join ⟨name⟩ ≠ path := by
  intro heq
  have hsteps : (path.join ⟨name⟩).writtenSteps = path.writtenSteps ++ [name] := writtenSteps_join h
  rw [heq] at hsteps
  have hlength := congrArg List.length hsteps
  rw [List.length_append, List.length_singleton] at hlength
  omega

theorem join_inj {other : Name} (h : IsPlainName name) (hother : IsPlainName other) :
    path.join ⟨name⟩ = path.join ⟨other⟩ ↔ name = other := by
  refine ⟨fun heq => ?_, fun heq => by rw [heq]⟩
  have hsteps := congrArg writtenSteps heq
  rw [writtenSteps_join h, writtenSteps_join hother] at hsteps
  exact (List.cons.inj (List.append_cancel_left hsteps)).1

theorem steps_join (h : IsPlainName name) :
    (path.join ⟨name⟩).steps = path.writtenSteps ++ [name] := by
  rw [steps_eq, writtenSteps_join h, hasTrailingSlash_join h]
  simp

end Join

end Path
end TypedQuery

import TypedQuery.Build.Script
import TypedQuery.Proofs.Build.Cancel
import TypedQuery.Proofs.Build.Duplicate

/-! Generation while tokens are made and cancelled, in whatever order this falls between the checks.
It gives all units or none. -/
namespace TypedQuery.Build

/-- What the holders of tokens do before each check and after the one before it. -/
abbrev Schedule := Nat → List Action

namespace Schedule

/-- All that is done before a check. -/
def before (schedule : Schedule) (check : Nat) : List Action :=
  (List.range (check + 1)).flatMap schedule

/-- What the checks of a token give. -/
def seen (schedule : Schedule) (token : Nat) (check : Nat) : Bool :=
  (CancelTokens.after (schedule.before check)).isCancelled token

def filter (schedule : Schedule) (keep : Action → Bool) : Schedule :=
  fun check => (schedule check).filter keep

end Schedule

/-- How many checks are made before and up to the first yes, when `done` were made already. -/
def checksFrom (cancelled : Nat → Bool) (done : Nat) : Nat → Nat
  | 0 => 0
  | files + 1 => if cancelled done then 1 else checksFrom cancelled (done + 1) files + 1

/-- The last check that is made for some files, if there are any. -/
def lastCheck (cancelled : Nat → Bool) (files : Nat) : Nat := checksFrom cancelled 0 files - 1

/-- A token that shares its flag with `token` is cancelled before the last check. -/
def Schedule.CancelsInTime (schedule : Schedule) (token files : Nat) : Prop :=
  ∃ other, WasCancelled (schedule.before (lastCheck (schedule.seen token) files)) other ∧
    SharesFlag (schedule.before (lastCheck (schedule.seen token) files)) other token

variable {settings : CodegenSettings} {cancelled : Nat → Bool} {units : List SourceUnit}
  {schedule : Schedule} {token : Nat}

section Generate

theorem go_eq (settings : CodegenSettings) (cancelled : Nat → Bool) (done : Nat)
    (units : List SourceUnit) :
    generateAll.go settings cancelled done units =
      if units ≠ [] ∧ cancelled (done + checksFrom cancelled done units.length - 1) then
        .error .cancelled
      else .ok (units.map (.ofSource · settings)) := by
  induction units generalizing done with
  | nil => rfl
  | cons unit rest ih =>
    rw [generateAll.go, List.length_cons, checksFrom]
    cases hdone : cancelled done with
    | true => simp [hdone]
    | false =>
      have hlast : done + (checksFrom cancelled (done + 1) rest.length + 1) - 1 =
          done + 1 + checksFrom cancelled (done + 1) rest.length - 1 := by omega
      simp only [Bool.false_eq_true, if_false]
      rw [ih, hlast]
      by_cases hrest : rest = []
      · subst hrest
        simp [checksFrom, hdone, Except.map]
      · simp only [hrest, ne_eq, not_false_eq_true, true_and, reduceCtorEq]
        split <;> rfl

/-- Either the last check says no and there are all units, or it says yes and there is none. -/
theorem generateAll_eq (settings : CodegenSettings) (cancelled : Nat → Bool)
    (units : List SourceUnit) : generateAll settings cancelled units =
      if units ≠ [] ∧ cancelled (lastCheck cancelled units.length) then .error .cancelled
      else .ok (units.map (.ofSource · settings)) := by
  rw [generateAll, go_eq, Nat.zero_add, lastCheck]

theorem generateAll_of_not_cancelled
    (h : generateAll settings cancelled units ≠ .error .cancelled) :
    generateAll settings cancelled units = .ok (units.map (.ofSource · settings)) := by
  rw [generateAll_eq] at h ⊢
  split at h
  · exact absurd rfl h
  · next hlast => rw [if_neg hlast]

theorem generateAll_never (settings : CodegenSettings) (units : List SourceUnit) :
    generateAll settings (fun _ => false) units = .ok (units.map (.ofSource · settings)) := by
  rw [generateAll_eq, if_neg (by simp)]

theorem checksFrom_le (cancelled : Nat → Bool) (done files : Nat) :
    checksFrom cancelled done files ≤ files := by
  induction files generalizing done with
  | zero => exact Nat.le_refl 0
  | succ files ih =>
    rw [checksFrom]
    split
    · exact Nat.le_add_left 1 files
    · exact Nat.add_le_add_right (ih (done + 1)) 1

theorem go_congr {other : Nat → Bool} {done : Nat}
    (h : ∀ check, done ≤ check → check < done + checksFrom cancelled done units.length →
      cancelled check = other check) :
    generateAll.go settings cancelled done units = generateAll.go settings other done units := by
  induction units generalizing done with
  | nil => rfl
  | cons unit rest ih =>
    rw [List.length_cons, checksFrom] at h
    rw [generateAll.go, generateAll.go]
    cases hdone : cancelled done with
    | true =>
      have hsame := h done (Nat.le_refl done) (by simp [hdone])
      rw [← hsame, hdone]
      rfl
    | false =>
      simp only [hdone, Bool.false_eq_true, if_false] at h
      have hsame := h done (Nat.le_refl done) (by omega)
      rw [← hsame, hdone, ih fun check hle hlt => h check (by omega) (by omega)]

/-- What is not asked by a check does not matter. -/
theorem generateAll_congr {other : Nat → Bool}
    (h : ∀ check < checksFrom cancelled 0 units.length, cancelled check = other check) :
    generateAll settings cancelled units = generateAll settings other units :=
  go_congr fun check _ hlt => h check (by omega)

end Generate

theorem generateAll_seen_eq_cancelled_iff :
    generateAll settings (schedule.seen token) units = .error .cancelled ↔
      units ≠ [] ∧ schedule.CancelsInTime token units.length := by
  have hlast : schedule.seen token (lastCheck (schedule.seen token) units.length) ↔
      schedule.CancelsInTime token units.length := isCancelled_after_iff
  rw [generateAll_eq, ← hlast]
  split
  · next h => exact iff_of_true rfl h
  · next h => exact iff_of_false nofun h

theorem Schedule.seen_filter {keep : Action → Bool} {check : Nat}
    (h : ∀ action, keep action = false →
      ∃ other, action = .cancel other ∧ ¬ SharesFlag (schedule.before check) other token) :
    (schedule.filter keep).seen token check = schedule.seen token check := by
  have hbefore : (schedule.filter keep).before check = (schedule.before check).filter keep :=
    (List.filter_flatMap).symm
  rw [seen, seen, hbefore]
  exact isCancelled_filter fun action _ hdropped => h action hdropped

section Script

variable {config : Settings} {host : Host} {queries manifest out : Path} {failure : Failure}

theorem readSource_error {path : Path}
    (h : readSource host path = .error failure) : ∃ cause, failure = .io path cause := by
  unfold readSource at h
  split at h
  · next cause _ =>
    cases h
    exact ⟨cause, rfl⟩
  · cases h

theorem mapM_readSource_ne_cancelled (host : Host) (paths : List Path) :
    paths.mapM (readSource host) ≠ .error .cancelled := by
  induction paths with
  | nil => nofun
  | cons path paths ih =>
    rw [List.mapM_cons]
    cases hread : readSource host path with
    | error failure =>
      obtain ⟨cause, rfl⟩ := readSource_error hread
      nofun
    | ok unit =>
      cases hrest : paths.mapM (readSource host) with
      | error failure =>
        intro h
        cases h
        exact ih hrest
      | ok units => nofun

/-- Only the checks cancel a build. -/
theorem collect_ne_cancelled (host : Host) (dir : Path) : collect host dir ≠ .error .cancelled := by
  unfold collect
  split
  · exact mapM_readSource_ne_cancelled host _
  · nofun

theorem write_ne_cancelled (settings : BuildSettings) (cwd : Location) (out : Path)
    (units : List GeneratedUnit) (store : Store) :
    (write settings cwd out units store).1 ≠ .error .cancelled := by
  intro h
  rcases write_error h with ⟨_, _, _, hfailure⟩ | ⟨_, _, hfailure⟩ <;> cases hfailure

theorem generateInto_of_ok (h : collect host queries = .ok units) :
    generateInto config host queries out cancelled =
      match generateAll config.codegen cancelled units with
      | .error failure => (.error failure, host.store)
      | .ok generated => write config.build host.cwd out generated host.store := by
  rw [generateInto, h]
  rfl

theorem generateInto_of_error (h : collect host queries = .error failure) :
    generateInto config host queries out cancelled = (.error failure, host.store) := by
  rw [generateInto, h]
  rfl

theorem generateInto_eq_cancelled_iff :
    (generateInto config host queries out cancelled).1 = .error .cancelled ↔
      ∃ files, collect host queries = .ok files ∧
        generateAll config.codegen cancelled files = .error .cancelled := by
  cases hcollect : collect host queries with
  | error failure =>
    rw [generateInto_of_error hcollect]
    refine iff_of_false ?_ nofun
    intro h
    cases h
    exact collect_ne_cancelled host queries hcollect
  | ok files =>
    rw [generateInto_of_ok hcollect]
    cases hall : generateAll config.codegen cancelled files with
    | error failure => simp [hall]
    | ok generated =>
      refine iff_of_false (write_ne_cancelled _ _ _ _ _) ?_
      rintro ⟨_, hfiles, h⟩
      cases hfiles
      rw [hall] at h
      cases h

/-- A cancelled build has not begun to write. -/
theorem generateInto_store
    (h : (generateInto config host queries out cancelled).1 = .error .cancelled) :
    (generateInto config host queries out cancelled).2 = host.store := by
  obtain ⟨files, hcollect, hall⟩ := generateInto_eq_cancelled_iff.mp h
  rw [generateInto_of_ok hcollect, hall]

theorem generateInto_of_not_cancelled
    (h : (generateInto config host queries out cancelled).1 ≠ .error .cancelled) :
    generateInto config host queries out cancelled =
      generateInto config host queries out fun _ => false := by
  cases hcollect : collect host queries with
  | error failure => rw [generateInto_of_error hcollect, generateInto_of_error hcollect]
  | ok files =>
    have hall : generateAll config.codegen cancelled files ≠ .error .cancelled :=
      fun hall => h (generateInto_eq_cancelled_iff.mpr ⟨files, hcollect, hall⟩)
    rw [generateInto_of_ok hcollect, generateInto_of_ok hcollect, generateAll_of_not_cancelled hall,
      generateAll_never]

end Script

/-- Whatever falls between the checks, generation is cancelled exactly if a cancel on a token of
the same flag comes before the last check; otherwise there are all units, and cancels on tokens of
other flags do not matter. A build that is cancelled has not written anything, and one that is not
is as if there were no cancels. -/
theorem generateAll_interleaved (settings : Settings) (schedule : Schedule) (token : Nat)
    (units : List SourceUnit) :
    (generateAll settings.codegen (schedule.seen token) units = .error .cancelled ↔
      units ≠ [] ∧ schedule.CancelsInTime token units.length) ∧
    (generateAll settings.codegen (schedule.seen token) units ≠ .error .cancelled →
      generateAll settings.codegen (schedule.seen token) units =
        .ok (units.map (.ofSource · settings.codegen))) ∧
    (∀ keep : Action → Bool,
      (∀ action, keep action = false → ∃ other, action = .cancel other ∧
        ∀ check < units.length, ¬ SharesFlag (schedule.before check) other token) →
      generateAll settings.codegen ((schedule.filter keep).seen token) units =
        generateAll settings.codegen (schedule.seen token) units) ∧
    ∀ (host : Host) (manifest out : Path),
      ((generateWith settings host manifest out (schedule.seen token)).result =
          .error .cancelled ↔
        ∃ files, collect host (manifest.join (.ofString settings.build.queriesDir)) = .ok files ∧
          files ≠ [] ∧ schedule.CancelsInTime token files.length) ∧
      ((generateWith settings host manifest out (schedule.seen token)).result =
          .error .cancelled →
        (generateWith settings host manifest out (schedule.seen token)).store = host.store) ∧
      ((generateWith settings host manifest out (schedule.seen token)).result ≠
          .error .cancelled →
        generateWith settings host manifest out (schedule.seen token) =
          generateWith settings host manifest out fun _ => false) := by
  refine ⟨generateAll_seen_eq_cancelled_iff, generateAll_of_not_cancelled, ?_, ?_⟩
  · intro keep hkeep
    refine (generateAll_congr fun check hcheck => ?_).symm
    have hcheck : check < units.length := Nat.lt_of_lt_of_le hcheck (checksFrom_le _ _ _)
    refine (Schedule.seen_filter ?_).symm
    intro action hdropped
    obtain ⟨other, hother, hshares⟩ := hkeep action hdropped
    exact ⟨other, hother, hshares check hcheck⟩
  · intro host manifest out
    refine ⟨?_, generateInto_store, ?_⟩
    · have hseen : ∀ files : List SourceUnit,
          generateAll settings.codegen (schedule.seen token) files = .error .cancelled ↔
            files ≠ [] ∧ schedule.CancelsInTime token files.length :=
        fun _ => generateAll_seen_eq_cancelled_iff
      simp only [← hseen]
      exact generateInto_eq_cancelled_iff
    · intro h
      rw [generateWith, generateWith, generateInto_of_not_cancelled h]

/-- Before the first check there are a token, a clone of it, a clone of that and another token,
which is cancelled; before the second the clone of the clone is. -/
def crossing : Schedule
  | 0 => [.fresh, .clone 0, .clone 1, .fresh, .cancel 3]
  | 1 => [.cancel 2]
  | _ => []

theorem generateAll_crossing :
    generateAll {} (crossing.seen 0) [.ofFile "a.sql" "SELECT 1", .ofFile "b.sql" "SELECT 2"] =
      .error .cancelled ∧
    generateAll {} ((crossing.filter (· ≠ .cancel 3)).seen 0)
      [.ofFile "a.sql" "SELECT 1", .ofFile "b.sql" "SELECT 2"] = .error .cancelled := by
  obtain ⟨hcancelled, _, hothers, _⟩ := generateAll_interleaved {} crossing 0
    [.ofFile "a.sql" "SELECT 1", .ofFile "b.sql" "SELECT 2"]
  have hshares : SharesFlag (crossing.before 1) 2 0 :=
    .trans 2 1 0 (.rel 2 1 rfl) (.rel 1 0 rfl)
  have hfirst := hcancelled.mpr ⟨List.cons_ne_nil _ _, 2,
    ⟨[.fresh, .clone 0, .clone 1, .fresh, .cancel 3], [], rfl, by decide⟩, hshares⟩
  have hapart : ∀ check < 2, (CancelTokens.after (crossing.before check)).flagOf[3]? ≠
      (CancelTokens.after (crossing.before check)).flagOf[0]? := by decide
  refine ⟨hfirst, (hothers _ ?_).trans hfirst⟩
  intro action hdropped
  refine ⟨3, by simpa using hdropped, ?_⟩
  intro check hcheck hshared
  exact hapart check hcheck hshared.flagOf_eq

end TypedQuery.Build

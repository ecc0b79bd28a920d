import TypedQuery.Proofs.Build.Course
import TypedQuery.Proofs.Store.Fill

/-! Writing the files of units one after the other, up to the first that cannot be written. -/
namespace TypedQuery.Build

open Store (Fills)

/-- The file that a unit is to have. -/
def unitFile (out : Path) (unit : GeneratedUnit) : Store.TextFile :=
  ⟨unitPath out unit, unit.source⟩

/-- The unit's file is missing or does not hold the text of its code. -/
def isStale (cwd : Location) (out : Path) (store : Store) (unit : GeneratedUnit) : Bool :=
  store.textAt? cwd (unitPath out unit) ≠ some unit.source

/-- The units before the first that cannot be written. -/
def reached (cwd : Location) (out : Path) : List GeneratedUnit → Store → List GeneratedUnit
  | [], _ => []
  | unit :: rest, store =>
    match writeIfChanged cwd store (unitPath out unit) unit.source with
    | .error _ => []
    | .ok (_, store) => unit :: reached cwd out rest store

variable {cwd : Location} {out path : Path} {text : String} {unit : GeneratedUnit}
  {units rest : List GeneratedUnit} {store next after : Store} {changed : Bool} {failure : Failure}
  {tally : Tally}

theorem writeIfChanged_ok (htree : store.IsTree)
    (h : writeIfChanged cwd store path text = .ok (changed, after)) :
    Fills cwd [⟨path, text⟩] store after ∧
      changed = decide (store.textAt? cwd path ≠ some text) := by
  have hstale : ∀ {loc}, store.Leads cwd path loc →
      (store.textAt? cwd path = some text ↔ store.content? loc = some text.toByteArray) := by
    intro loc hleads
    rw [Store.textAt?_eq_some_iff, hleads.fileAt?_eq]
  unfold writeIfChanged at h
  split at h
  · next hread =>
    cases h
    obtain ⟨loc, hleads, hfile⟩ := Store.readText_toOption_eq_some_iff.mp hread
    refine ⟨hleads.fills (Store.puts_of_content? hfile), ?_⟩
    simp [(hstale hleads).mpr hfile]
  · next hread =>
    split at h
    · next written hwrite =>
      cases h
      obtain ⟨loc, hleads, hputs⟩ := Store.writeBytes_eq_ok htree hwrite
      refine ⟨hleads.fills hputs, ?_⟩
      have hother : store.textAt? cwd path ≠ some text := fun htext =>
        hread (Store.readText_toOption_eq_some_iff.mpr ⟨loc, hleads, (hstale hleads).mp htext⟩)
      simp [hother]
    · cases h

section Steps

theorem writeUnits_cons_error (rest : List GeneratedUnit)
    (h : writeIfChanged cwd store (unitPath out unit) unit.source = .error failure) :
    writeUnits cwd out (unit :: rest) store = (.error failure, store) ∧
      reached cwd out (unit :: rest) store = [] := by
  rw [writeUnits, reached, h]
  exact ⟨rfl, rfl⟩

theorem writeUnits_cons_ok (rest : List GeneratedUnit)
    (h : writeIfChanged cwd store (unitPath out unit) unit.source = .ok (changed, next)) :
    writeUnits cwd out (unit :: rest) store =
        ((writeUnits cwd out rest next).1.map (·.add changed), (writeUnits cwd out rest next).2) ∧
      reached cwd out (unit :: rest) store = unit :: reached cwd out rest next := by
  rw [writeUnits, reached, h]
  exact ⟨rfl, rfl⟩

end Steps

theorem reached_prefix_units (cwd : Location) (out : Path) (units : List GeneratedUnit)
    (store : Store) : reached cwd out units store <+: units := by
  induction units generalizing store with
  | nil => exact List.prefix_rfl
  | cons unit rest ih =>
    cases hstep : writeIfChanged cwd store (unitPath out unit) unit.source with
    | error failure =>
      rw [(writeUnits_cons_error rest hstep).2]
      exact List.nil_prefix
    | ok step =>
      rw [(writeUnits_cons_ok rest hstep).2, List.prefix_cons_inj]
      exact ih step.2

/-- Writing stops at the first unit whose file cannot be written. -/
theorem writeUnits_error (h : (writeUnits cwd out units store).1 = .error failure) :
    ∃ unit later cause, units = reached cwd out units store ++ unit :: later ∧
      failure = .io (unitPath out unit) cause := by
  induction units generalizing store with
  | nil => cases h
  | cons unit rest ih =>
    cases hstep : writeIfChanged cwd store (unitPath out unit) unit.source with
    | error cause =>
      obtain ⟨hwrite, hreached⟩ := writeUnits_cons_error rest hstep
      rw [hwrite] at h
      cases h
      obtain ⟨cause, rfl⟩ := writeIfChanged_eq_error hstep
      exact ⟨unit, rest, cause, by rw [hreached]; rfl, rfl⟩
    | ok step =>
      obtain ⟨hwrite, hreached⟩ := writeUnits_cons_ok rest hstep
      cases hrest : (writeUnits cwd out rest step.2).1 with
      | ok inner =>
        rw [hwrite, hrest] at h
        cases h
      | error cause =>
        rw [hwrite, hrest] at h
        cases h
        obtain ⟨stopped, later, cause, hunits, hfailure⟩ := ih hrest
        exact ⟨stopped, later, cause, by rw [hreached, List.cons_append, ← hunits], hfailure⟩

theorem reached_of_ok (h : (writeUnits cwd out units store).1 = .ok tally) :
    reached cwd out units store = units := by
  induction units generalizing store tally with
  | nil => rfl
  | cons unit rest ih =>
    cases hstep : writeIfChanged cwd store (unitPath out unit) unit.source with
    | error cause =>
      rw [(writeUnits_cons_error rest hstep).1] at h
      cases h
    | ok step =>
      obtain ⟨hwrite, hreached⟩ := writeUnits_cons_ok rest hstep
      cases hrest : (writeUnits cwd out rest step.2).1 with
      | ok inner => rw [hreached, ih hrest]
      | error cause =>
        rw [hwrite, hrest] at h
        cases h

/-- The files of units that lie apart are filled one by one. -/
theorem writeUnits_fills (htree : store.IsTree)
    (hapart : units.Pairwise fun a b => store.Apart cwd (unitPath out a) (unitPath out b)) :
    Fills cwd ((reached cwd out units store).map (unitFile out)) store
      (writeUnits cwd out units store).2 := by
  induction units generalizing store with
  | nil => exact .refl cwd store
  | cons unit rest ih =>
    cases hstep : writeIfChanged cwd store (unitPath out unit) unit.source with
    | error failure =>
      obtain ⟨hwrite, hreached⟩ := writeUnits_cons_error rest hstep
      rw [hwrite, hreached]
      exact .refl cwd store
    | ok step =>
      obtain ⟨hwrite, hreached⟩ := writeUnits_cons_ok rest hstep
      obtain ⟨hhead, hrest⟩ := List.pairwise_cons.mp hapart
      have hfirst := (writeIfChanged_ok htree hstep).1
      have hlater := ih (hfirst.grows.tree htree) (hrest.imp hfirst.grows.apart)
      rw [hwrite, hreached]
      refine hfirst.trans hlater ?_
      intro file hfile other hother
      obtain ⟨later, hmem, rfl⟩ := List.mem_map.mp hother
      rw [List.mem_singleton.mp hfile]
      exact hhead later ((reached_prefix_units cwd out rest step.2).subset hmem)

/-- Files elsewhere make no unit stale or up to date. -/
theorem countP_isStale {files : List Store.TextFile} (h : Fills cwd files store after)
    (hapart : ∀ unit ∈ units, ∀ file ∈ files, store.Apart cwd (unitPath out unit) file.path) :
    units.countP (isStale cwd out after) = units.countP (isStale cwd out store) := by
  apply List.countP_congr
  intro unit hunit
  rw [isStale, isStale, Store.textAt?, Store.textAt?, h.fileAt?_eq (hapart unit hunit)]

/-- The units counted as written are those with stale files. -/
theorem writeUnits_tally (htree : store.IsTree)
    (hapart : units.Pairwise fun a b => store.Apart cwd (unitPath out a) (unitPath out b))
    (h : (writeUnits cwd out units store).1 = .ok tally) :
    tally.written = units.countP (isStale cwd out store) ∧
      tally.written + tally.unchanged = units.length := by
  induction units generalizing store tally with
  | nil =>
    cases h
    exact ⟨rfl, rfl⟩
  | cons unit rest ih =>
    cases hstep : writeIfChanged cwd store (unitPath out unit) unit.source with
    | error failure =>
      rw [(writeUnits_cons_error rest hstep).1] at h
      cases h
    | ok step =>
      obtain ⟨changed, next⟩ := step
      obtain ⟨hhead, hrest⟩ := List.pairwise_cons.mp hapart
      obtain ⟨hfirst, hchanged⟩ := writeIfChanged_ok htree hstep
      have hlater : rest.countP (isStale cwd out next) = rest.countP (isStale cwd out store) := by
        apply countP_isStale hfirst
        intro later hmem file hfile
        rw [List.mem_singleton.mp hfile]
        exact (hhead later hmem).symm
      have hstale : isStale cwd out store unit = changed := hchanged.symm
      obtain ⟨hwrite, _⟩ := writeUnits_cons_ok rest hstep
      cases hinner : (writeUnits cwd out rest next).1 with
      | error cause =>
        rw [hwrite, hinner] at h
        cases h
      | ok inner =>
        rw [hwrite, hinner] at h
        cases h
        obtain ⟨hwritten, htotal⟩ :=
          ih (hfirst.grows.tree htree) (hrest.imp hfirst.grows.apart) hinner
        rw [List.countP_cons, hstale, List.length_cons, ← hlater, ← hwritten, ← htotal]
        cases changed with
        | false => exact ⟨rfl, rfl⟩
        | true => exact ⟨rfl, Nat.add_right_comm _ _ _⟩

end TypedQuery.Build

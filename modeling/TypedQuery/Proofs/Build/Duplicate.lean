import TypedQuery.Proofs.Build.Filling
import TypedQuery.Proofs.Code.UnitName

/-! Units are refused exactly if two of them give a type of the same name, and then nothing is
touched. -/
namespace TypedQuery.Build

variable {units seen : List GeneratedUnit} {first unit : GeneratedUnit}

theorem duplicate?_eq_none_iff : duplicate? seen units = none ↔
    (units.map (·.typeName)).Nodup ∧
      ∀ unit ∈ units, ∀ first ∈ seen, first.typeName ≠ unit.typeName := by
  induction units generalizing seen with
  | nil => simp [duplicate?]
  | cons unit rest ih =>
    rw [duplicate?]
    cases hfind : seen.find? (·.typeName = unit.typeName) with
    | some first =>
      have hname : first.typeName = unit.typeName := by simpa using List.find?_some hfind
      refine iff_of_false nofun ?_
      rintro ⟨_, hfresh⟩
      exact hfresh unit List.mem_cons_self first (List.mem_of_find?_eq_some hfind) hname
    | none =>
      have hunit : ∀ first ∈ seen, first.typeName ≠ unit.typeName := by
        simpa using List.find?_eq_none.mp hfind
      simp only [ih, List.map_cons, List.nodup_cons, List.mem_map, not_exists, not_and,
        List.forall_mem_cons]
      constructor
      · rintro ⟨hnodup, hfresh⟩
        refine ⟨⟨fun other hother heq => (hfresh other hother).1 heq.symm, hnodup⟩, hunit, ?_⟩
        exact fun other hother => (hfresh other hother).2
      · rintro ⟨⟨hhead, hnodup⟩, _, hfresh⟩
        exact ⟨hnodup, fun other hother =>
          ⟨fun heq => hhead other hother heq.symm, hfresh other hother⟩⟩

/-- What is found is the first unit with the type of an earlier one, and that earlier one. -/
theorem duplicate?_eq_some (h : duplicate? seen units = some (first, unit)) :
    ∃ before after, units = before ++ unit :: after ∧ duplicate? seen before = none ∧
      (first ∈ before ∨ first ∈ seen) ∧ first.typeName = unit.typeName := by
  induction units generalizing seen with
  | nil => cases h
  | cons head rest ih =>
    rw [duplicate?] at h
    cases hfind : seen.find? (·.typeName = head.typeName) with
    | some earlier =>
      simp only [hfind] at h
      cases h
      have hname : first.typeName = unit.typeName := by simpa using List.find?_some hfind
      exact ⟨[], rest, rfl, rfl, .inr (List.mem_of_find?_eq_some hfind), hname⟩
    | none =>
      simp only [hfind] at h
      obtain ⟨before, after, rfl, hbefore, hfirst, hname⟩ := ih h
      refine ⟨head :: before, after, rfl, ?_, ?_, hname⟩
      · rw [duplicate?, hfind]
        exact hbefore
      · rcases hfirst with hfirst | hfirst
        · exact .inl (List.mem_cons_of_mem head hfirst)
        · rcases List.mem_cons.mp hfirst with rfl | hfirst
          · exact .inl List.mem_cons_self
          · exact .inr hfirst

theorem duplicate?_nil_eq_none_iff :
    duplicate? [] units = none ↔ (units.map (·.typeName)).Nodup := by
  simp [duplicate?_eq_none_iff]

theorem not_nodup_typeName_iff : ¬ (units.map (·.typeName)).Nodup ↔
    ∃ i j : Fin units.length, i ≠ j ∧ units[i].typeName = units[j].typeName := by
  rw [List.Nodup, List.pairwise_map, List.pairwise_iff_getElem]
  constructor
  · intro h
    push Not at h
    obtain ⟨i, j, hi, hj, hij, heq⟩ := h
    exact ⟨⟨i, hi⟩, ⟨j, hj⟩, fun h => Nat.ne_of_lt hij (Fin.mk.inj h), heq⟩
  · rintro ⟨i, j, hne, heq⟩ hpairwise
    rcases Nat.lt_or_gt_of_ne (Fin.val_ne_of_ne hne) with hij | hji
    · exact hpairwise i j i.isLt j.isLt hij heq
    · exact hpairwise j i j.isLt i.isLt hji heq.symm

theorem write_of_duplicate? {settings : BuildSettings} {cwd : Location} {out : Path} {store : Store}
    (h : duplicate? [] units = some (first, unit)) : write settings cwd out units store =
      (.error (.duplicateQuery unit.typeName first.sourceFile unit.sourceFile), store) := by
  rw [write, h]

/-- Writing fails on a duplicate or on a path. -/
theorem write_error {settings : BuildSettings} {cwd : Location} {out : Path} {store : Store}
    {failure : Failure} (h : (write settings cwd out units store).1 = .error failure) :
    (∃ first unit, duplicate? [] units = some (first, unit) ∧
      failure = .duplicateQuery unit.typeName first.sourceFile unit.sourceFile) ∨
    ∃ path cause, failure = .io path cause := by
  have hcourse := course_write settings cwd out units store
  generalize write settings cwd out units store = outcome at h hcourse
  cases hcourse with
  | @duplicate first unit hfound =>
    cases h
    exact .inl ⟨first, unit, hfound, rfl⟩
  | @directory cause =>
    cases h
    exact .inr ⟨out, cause, rfl⟩
  | unit _ _ hunits =>
    cases h
    obtain ⟨unit, _, cause, _, rfl⟩ := writeUnits_error (congrArg Prod.fst hunits)
    exact .inr ⟨_, cause, rfl⟩
  | index _ _ _ hindex =>
    cases h
    obtain ⟨cause, rfl⟩ := writeIfChanged_eq_error hindex
    exact .inr ⟨_, cause, rfl⟩
  | done => cases h

/-- Units are refused exactly if two of them have a type of the same name. The failure names the
first that repeats an earlier one, and the files of both; nothing is touched. Units that are not
refused have files of their own, and no two of the types that their code declares have the same
name. -/
theorem write_eq_duplicateQuery_iff (settings : BuildSettings) (cwd : Location) (out : Path)
    (units : List GeneratedUnit) (store : Store)
    (hgenerated : ∀ unit ∈ units, unit.IsGenerated) :
    ((∃ type first second, (write settings cwd out units store).1 =
        .error (.duplicateQuery type first second)) ↔
      ∃ i j : Fin units.length, i ≠ j ∧ units[i].typeName = units[j].typeName) ∧
    (∀ type first second, (write settings cwd out units store).1 =
        .error (.duplicateQuery type first second) →
      (write settings cwd out units store).2 = store ∧
      ∃ before unit after, units = before ++ unit :: after ∧ (before.map (·.typeName)).Nodup ∧
        ∃ earlier ∈ before, earlier.typeName = unit.typeName ∧ type = unit.typeName ∧
          first = earlier.sourceFile ∧ second = unit.sourceFile) ∧
    ((∀ type first second, (write settings cwd out units store).1 ≠
        .error (.duplicateQuery type first second)) →
      (units.map (·.fileName)).Nodup ∧ (units.flatMap (·.itemNames)).Nodup) ∧
    ∀ unit ∈ units, ∀ name ∈ unit.itemNames, unit.Declares name := by
  have hdeclares : ∀ unit ∈ units, ∀ name ∈ unit.itemNames, unit.Declares name :=
    fun unit hunit name => (hgenerated unit hunit).declares
  cases hduplicate : duplicate? [] units with
  | some pair =>
    obtain ⟨found, unit⟩ := pair
    obtain ⟨before, after, hunits, hbefore, hfound, hname⟩ := duplicate?_eq_some hduplicate
    have hrepeated : ¬ (units.map (·.typeName)).Nodup := by
      rw [← duplicate?_nil_eq_none_iff, hduplicate]
      exact nofun
    rw [write_of_duplicate? hduplicate]
    refine ⟨iff_of_true ⟨_, _, _, rfl⟩ (not_nodup_typeName_iff.mp hrepeated), ?_, ?_, hdeclares⟩
    · intro type first second h
      cases h
      have hfound : found ∈ before := hfound.resolve_right List.not_mem_nil
      have hdistinct := duplicate?_nil_eq_none_iff.mp hbefore
      exact ⟨rfl, before, unit, after, hunits, hdistinct, found, hfound, hname, rfl, rfl, rfl⟩
    · intro h
      exact absurd rfl (h _ _ _)
  | none =>
    have hdistinct := duplicate?_nil_eq_none_iff.mp hduplicate
    have hresult : ∀ type first second, (write settings cwd out units store).1 ≠
        .error (.duplicateQuery type first second) := by
      intro type first second h
      rcases write_error h with ⟨_, _, hfound, _⟩ | ⟨_, _, hfailure⟩
      · rw [hduplicate] at hfound
        cases hfound
      · cases hfailure
    refine ⟨iff_of_false ?_ ?_, ?_, ?_, hdeclares⟩
    · rintro ⟨type, first, second, h⟩
      exact hresult type first second h
    · rw [← not_nodup_typeName_iff]
      exact not_not.mpr hdistinct
    · intro type first second h
      exact absurd h (hresult type first second)
    · intro _
      exact ⟨GeneratedUnit.nodup_fileName hgenerated hdistinct,
        GeneratedUnit.nodup_itemNames hgenerated hdistinct⟩

/-- Files of which two have names that differ and give one type. -/
def clashingFiles : List SourceUnit :=
  [.ofFile "b.sql" "SELECT 1", .ofFile "a-b.sql" "SELECT 2", .ofFile "a_b.sql" "SELECT 3"]

theorem write_clashingFiles : ∃ type first second,
    write {} [] (.ofString "out") (clashingFiles.map (.ofSource · {})) .empty =
      (.error (.duplicateQuery type first second), .empty) := by
  have hgenerated : ∀ unit ∈ clashingFiles.map (GeneratedUnit.ofSource · {}), unit.IsGenerated := by
    intro unit hunit
    obtain ⟨source, _, rfl⟩ := List.mem_map.mp hunit
    exact ⟨source, {}, rfl⟩
  obtain ⟨hiff, hrefused, _⟩ :=
    write_eq_duplicateQuery_iff {} [] (.ofString "out") _ .empty hgenerated
  obtain ⟨type, first, second, h⟩ :=
    hiff.mpr ⟨⟨1, by decide⟩, ⟨2, by decide⟩, by decide, by decide +kernel⟩
  exact ⟨type, first, second, Prod.ext h (hrefused type first second h).1⟩

end TypedQuery.Build

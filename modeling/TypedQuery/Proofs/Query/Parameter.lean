import TypedQuery.Proofs.Sql.Clean
import TypedQuery.Query.Binding

/-! The parameters of a text, the look-up of their names, and which of them are bound. -/
namespace TypedQuery.Query

open Sql (IsWord Refers runs)

section Declared

variable {params : List Parameter} {name : List Char} {index : Nat}

theorem declared_lt (h : declared params name = some index) : index < params.length := by
  obtain ⟨hlt, _⟩ := List.findIdx?_eq_some_iff_getElem.mp h
  exact hlt

/-- Of several parameters with one name the first is found. -/
theorem declared_eq_some_iff_take : declared params name = some index ↔
    ∃ p, params[index]? = some p ∧ p.name.toList = name ∧
      ∀ q ∈ params.take index, q.name ≠ p.name := by
  unfold declared
  rw [List.findIdx?_eq_some_iff_getElem]
  constructor
  · rintro ⟨hlt, hname, hbefore⟩
    refine ⟨params[index], List.getElem?_eq_getElem hlt, by simpa using hname, ?_⟩
    intro q hq hsame
    obtain ⟨j, hj, rfl⟩ := List.mem_take_iff_getElem.mp hq
    have hne := hbefore j (by omega)
    rw [hsame] at hne
    exact hne hname
  · rintro ⟨p, hp, rfl, hbefore⟩
    obtain ⟨hlt, rfl⟩ := List.getElem?_eq_some_iff.mp hp
    refine ⟨hlt, by simp, ?_⟩
    intro j hj
    rw [decide_eq_true_eq, String.toList_inj]
    exact hbefore _ (List.mem_take_iff_getElem.mpr ⟨j, by omega, rfl⟩)

/-- With distinct names each parameter is found under its own. -/
theorem declared_eq_some_iff (hdistinct : params.Pairwise (·.name ≠ ·.name))
    (i : Fin params.length) :
    declared params name = some i.val ↔ params[i].name.toList = name := by
  unfold declared
  rw [List.findIdx?_eq_some_iff_getElem]
  constructor
  · rintro ⟨_, hname, _⟩
    simpa using hname
  · intro hname
    refine ⟨i.isLt, by simpa using hname, ?_⟩
    intro j hji
    have hne := List.pairwise_iff_getElem.mp hdistinct j i (by omega) i.isLt hji
    simp only [decide_eq_true_eq]
    intro hj
    exact hne (String.toList_inj.mp (hj.trans hname.symm))

end Declared

theorem mem_of_mem_distinctNames {params : List Parameter} {p : Parameter}
    (h : p ∈ distinctNames params) : p ∈ params := by
  induction params with
  | nil => exact h
  | cons q params ih =>
    rcases List.mem_cons.mp h with rfl | h
    · exact List.mem_cons_self
    · exact List.mem_cons_of_mem q (ih (List.mem_filter.mp h).1)

theorem distinctNames_pairwise (params : List Parameter) :
    (distinctNames params).Pairwise (·.name ≠ ·.name) := by
  induction params with
  | nil => exact .nil
  | cons p params ih =>
    refine .cons ?_ (ih.filter _)
    intro q hq
    have hne : q.name ≠ p.name := by simpa using (List.mem_filter.mp hq).2
    exact hne.symm

/-- No name is lost. -/
theorem exists_mem_distinctNames {params : List Parameter} {p : Parameter} (h : p ∈ params) :
    ∃ q ∈ distinctNames params, q.name = p.name := by
  induction params with
  | nil => cases h
  | cons r params ih =>
    by_cases hr : r.name = p.name
    · exact ⟨r, List.mem_cons_self, hr⟩
    have hp : p ∈ params := (List.mem_cons.mp h).resolve_left (fun heq => hr (heq ▸ rfl))
    obtain ⟨q, hq, hname⟩ := ih hp
    refine ⟨q, List.mem_cons_of_mem r (List.mem_filter.mpr ⟨hq, ?_⟩), hname⟩
    simpa [hname] using Ne.symm hr

theorem parameters_pairwise (text : String) :
    (parameters text).Pairwise (·.name ≠ ·.name) := distinctNames_pairwise _

theorem isWord_of_mem_parameters {text : String} {p : Parameter} (h : p ∈ parameters text) :
    IsWord p.name.toList ∧ IsWord p.sqlType.toList := by
  obtain ⟨d, hd, rfl⟩ := List.mem_map.mp (mem_of_mem_distinctNames h)
  simpa using Sql.isWord_of_mem_declarations hd

/-- The type token of the parameter of that name. -/
def typeOf (params : List Parameter) (name : List Char) : Option (List Char) :=
  (params.find? (·.name.toList = name)).map (·.sqlType.toList)

theorem isWord_of_typeOf {text : String} {name type : List Char}
    (h : typeOf (parameters text) name = some type) : IsWord type := by
  obtain ⟨p, hfind, rfl⟩ := Option.map_eq_some_iff.mp h
  exact (isWord_of_mem_parameters (List.mem_of_find?_eq_some hfind)).2

theorem typeOf_ne_none {text : String} {d : List Char × List Char}
    (h : d ∈ Sql.declarations text.toList) : typeOf (parameters text) d.1 ≠ none := by
  obtain ⟨q, hq, hname⟩ := exists_mem_distinctNames (List.mem_map_of_mem h)
  unfold typeOf
  rw [ne_eq, Option.map_eq_none_iff, List.find?_eq_none]
  intro hnone
  apply hnone q hq
  simp [hname]

section Order

variable {params : List Parameter} {sql : List Char} {index : Nat}

/-- A parameter occurs where code refers to its name and no parameter before it has that name. -/
theorem mem_occurrences_iff : index ∈ occurrences params sql ↔
    ∃ run ∈ runs sql, run.code ∧
      ∃ name, Refers run.text name ∧ declared params name = some index := by
  simp only [occurrences, List.mem_flatMap, List.mem_filter, List.mem_filterMap,
    Sql.mem_references_iff, and_assoc]

theorem occurrences_lt (h : index ∈ occurrences params sql) : index < params.length := by
  obtain ⟨_, _, _, _, _, hdeclared⟩ := mem_occurrences_iff.mp h
  exact declared_lt hdeclared

theorem mem_used_iff : index ∈ used params sql ↔ index ∈ occurrences params sql := by
  rw [used, List.mem_filter, List.mem_range, decide_eq_true_eq, and_iff_right_iff_imp]
  exact occurrences_lt

/-- A parameter that code refers to is in use. -/
theorem mem_used_of_mem_references {run : Sql.Run} {name : List Char} (hrun : run ∈ runs sql)
    (hcode : run.code) (hname : name ∈ Sql.references run.text)
    (hindex : index ∈ declared params name) : index ∈ used params sql := by
  rw [mem_used_iff, mem_occurrences_iff]
  exact ⟨run, hrun, hcode, name, Sql.mem_references_iff.mp hname, hindex⟩

theorem mem_bindOrder_iff {dialect : Dialect} :
    index ∈ bindOrder sql params dialect ↔ index ∈ occurrences params sql := by
  unfold bindOrder
  split
  · exact Iff.rfl
  · exact mem_used_iff

end Order

end TypedQuery.Query

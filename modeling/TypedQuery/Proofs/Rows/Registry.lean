import TypedQuery.Rows.Get
import Mathlib.Data.List.Induction
import Mathlib.Data.List.Nodup
import Mathlib.Data.List.Perm.Subperm

/-! What look-ups in a registry answer after any calls that registered types. -/
namespace TypedQuery.Rows

section Columns

variable {map : ColumnMap} {field column : String}

theorem find?_eq_some_iff_of_nodup {α κ : Type} [DecidableEq κ] {key : α → κ} {items : List α}
    {k : κ} {a : α} (h : (items.map key).Nodup) :
    items.find? (key · = k) = some a ↔ a ∈ items ∧ key a = k := by
  constructor
  · intro hfind
    exact ⟨List.mem_of_find?_eq_some hfind, by simpa using List.find?_some hfind⟩
  · rintro ⟨hmem, rfl⟩
    obtain ⟨b, hfind⟩ := Option.isSome_iff_exists.mp
      (List.find?_isSome (p := (key · = key a)).mpr ⟨a, hmem, by simp⟩)
    have hkey : key b = key a := by simpa using List.find?_some hfind
    rw [hfind, List.inj_on_of_nodup_map h (List.mem_of_find?_eq_some hfind) hmem hkey]

namespace ColumnMap

theorem column?_eq_some_iff_mem (h : (map.columns.map Prod.fst).Nodup) :
    map.column? field = some column ↔ (field, column) ∈ map.columns := by
  simp only [column?, Option.map_eq_some_iff, find?_eq_some_iff_of_nodup h, Prod.exists]
  constructor
  · rintro ⟨_, _, ⟨hmem, rfl⟩, rfl⟩
    exact hmem
  · intro hmem
    exact ⟨field, column, ⟨hmem, rfl⟩, rfl⟩

theorem field?_eq_some_iff_mem (h : (map.columns.map Prod.snd).Nodup) :
    map.field? column = some field ↔ (field, column) ∈ map.columns := by
  simp only [field?, Option.map_eq_some_iff, find?_eq_some_iff_of_nodup h, Prod.exists]
  constructor
  · rintro ⟨_, _, ⟨hmem, rfl⟩, rfl⟩
    exact hmem
  · intro hmem
    exact ⟨field, column, ⟨hmem, rfl⟩, rfl⟩

/-- The field that is listed first with a column. -/
theorem field?_eq_some_iff : map.field? column = some field ↔
    ∃ before after, map.columns = before ++ (field, column) :: after ∧
      ∀ pair ∈ before, pair.2 ≠ column := by
  simp only [field?, Option.map_eq_some_iff, List.find?_eq_some_iff_append, Prod.exists]
  constructor
  · rintro ⟨_, _, ⟨hcolumn, before, after, hcolumns, hbefore⟩, rfl⟩
    obtain rfl := of_decide_eq_true hcolumn
    exact ⟨before, after, hcolumns, fun pair hpair => by simpa using hbefore pair hpair⟩
  · rintro ⟨before, after, hcolumns, hbefore⟩
    exact ⟨field, column, ⟨decide_eq_true rfl, before, after, hcolumns,
      fun pair hpair => by simpa using hbefore pair hpair⟩, rfl⟩

/-- A column that a field is stored in feeds a field. -/
theorem exists_field?_of_column? (h : map.column? field = some column) :
    ∃ first, map.field? column = some first := by
  obtain ⟨pair, hfind, rfl⟩ := Option.map_eq_some_iff.mp h
  have hsome : (map.columns.find? (·.2 = pair.2)).isSome :=
    List.find?_isSome.mpr ⟨pair, List.mem_of_find?_eq_some hfind, decide_eq_true (Eq.refl pair.2)⟩
  exact Option.isSome_iff_exists.mp (Option.isSome_map.trans hsome)

end ColumnMap

end Columns

namespace Registry

/-- The registry after calls one after the other, each of which registers the maps of some types. -/
def after (columnsOf : String → List (String × String)) (calls : List (List String)) : Registry :=
  calls.foldl (fun registry types => registry.register (types.map (.of columnsOf))) empty

variable {columnsOf : String → List (String × String)} {calls : List (List String)} {type : String}

section Count

variable {registry : Registry} {maps : List ColumnMap}

theorem mem_types_insert {map : ColumnMap} : type ∈ (registry.insert map).maps.map (·.type) ↔
    type = map.type ∨ type ∈ registry.maps.map (·.type) := by
  simp only [insert, List.map_cons, List.mem_cons, List.mem_map, List.mem_filter, decide_eq_true_eq]
  constructor
  · rintro (rfl | ⟨other, ⟨hother, -⟩, rfl⟩)
    · exact .inl rfl
    · exact .inr ⟨other, hother, rfl⟩
  · rintro (rfl | ⟨other, hother, rfl⟩)
    · exact .inl rfl
    · by_cases hsame : other.type = map.type
      · exact .inl hsame
      · exact .inr ⟨other, ⟨hother, hsame⟩, rfl⟩

/-- No type has two maps. -/
theorem nodup_types_insert (map : ColumnMap) (h : (registry.maps.map (·.type)).Nodup) :
    ((registry.insert map).maps.map (·.type)).Nodup := by
  rw [insert, List.map_cons, List.nodup_cons]
  refine ⟨?_, h.sublist (List.filter_sublist.map _)⟩
  simp

theorem types_install (h : (registry.maps.map (·.type)).Nodup) :
    ((registry.install maps).2.maps.map (·.type)).Nodup ∧
      ∀ type, type ∈ (registry.install maps).2.maps.map (·.type) ↔
        type ∈ maps.map (·.type) ∨ type ∈ registry.maps.map (·.type) := by
  induction maps generalizing registry with
  | nil => exact ⟨h, fun type => by simp [install]⟩
  | cons map maps ih =>
    obtain ⟨hnodup, hmem⟩ := ih (nodup_types_insert map h)
    refine ⟨hnodup, fun type => (hmem type).trans ?_⟩
    rw [mem_types_insert, List.map_cons, List.mem_cons]
    tauto

/-- The answer is the number of types that are registered then only where none is listed twice. -/
theorem install_count_eq_iff :
    (empty.install maps).1 = (empty.install maps).2.maps.length ↔ (maps.map (·.type)).Nodup := by
  have hempty : (empty.maps.map (·.type)).Nodup := List.nodup_nil
  obtain ⟨hnodup, hmem⟩ := @types_install _ maps hempty
  have hmem : ∀ type, type ∈ (empty.install maps).2.maps.map (·.type) ↔
      type ∈ maps.map (·.type) := fun type => (hmem type).trans (or_iff_left List.not_mem_nil)
  have hlength : (empty.install maps).1 = (empty.install maps).2.maps.length ↔
      (maps.map (·.type)).length = ((empty.install maps).2.maps.map (·.type)).length := by
    rw [List.length_map, List.length_map]
    rfl
  rw [hlength]
  constructor
  · intro heq
    have hsub := List.subperm_of_subset hnodup fun type => (hmem type).mp
    exact (hsub.perm_of_length_le (Nat.le_of_eq heq)).nodup_iff.mp hnodup
  · intro hdistinct
    exact ((List.perm_ext_iff_of_nodup hnodup hdistinct).mpr hmem).length_eq.symm

end Count

section Calls

theorem get?_insert (registry : Registry) (map : ColumnMap) (type : String) :
    (registry.insert map).get? type = if type = map.type then some map else registry.get? type := by
  split
  case isTrue h => rw [h, get?_insert_same]
  case isFalse h => exact get?_insert_other registry map h

/-- One call. -/
theorem get?_register (registry : Registry) (types : List String) :
    (registry.register (types.map (.of columnsOf))).get? type =
      if type ∈ types then some (.of columnsOf type) else registry.get? type := by
  induction types generalizing registry with
  | nil => rw [if_neg List.not_mem_nil]; rfl
  | cons first types ih =>
    have hfirst : (registry.insert (.of columnsOf first)).get? type =
        if type = first then some (.of columnsOf first) else registry.get? type :=
      get?_insert registry (.of columnsOf first) type
    have hrest := ih (registry.insert (.of columnsOf first))
    rw [List.map_cons]
    change ((registry.insert (.of columnsOf first)).register
      (types.map (.of columnsOf))).get? type = _
    rw [hrest, hfirst]
    by_cases hmem : type ∈ types
    · rw [if_pos hmem, if_pos (List.mem_cons_of_mem first hmem)]
    · by_cases heq : type = first
      · rw [if_neg hmem, if_pos heq, if_pos (heq ▸ List.mem_cons_self), heq]
      · rw [if_neg hmem, if_neg heq, if_neg (by simp [hmem, heq])]

/-- A type is registered with its own map as soon as a call named it. -/
theorem get?_after : (after columnsOf calls).get? type =
    if type ∈ calls.flatten then some (.of columnsOf type) else none := by
  induction calls using List.reverseRecOn with
  | nil => rfl
  | append_singleton calls types ih =>
    have hlast : after columnsOf (calls ++ [types]) =
        (after columnsOf calls).register (types.map (.of columnsOf)) := List.foldl_concat _ _ _ _
    rw [hlast, get?_register, ih, List.flatten_concat]
    by_cases hlast : type ∈ types
    · rw [if_pos hlast, if_pos (List.mem_append_right _ hlast)]
    · rw [if_neg hlast]
      congr 1
      rw [List.mem_append, or_iff_left hlast]

theorem columnFor?_after (field : String) : (after columnsOf calls).columnFor? type field =
    if type ∈ calls.flatten then (ColumnMap.of columnsOf type).column? field else none := by
  rw [columnFor?, get?_after]
  split <;> rfl

theorem fieldFor?_after (column : String) : (after columnsOf calls).fieldFor? type column =
    if type ∈ calls.flatten then (ColumnMap.of columnsOf type).field? column else none := by
  rw [fieldFor?, get?_after]
  split <;> rfl

end Calls

/-- After any calls the answers for a type are those of its own map if a call named it, and nothing
otherwise; other types, the order of calls and repetitions make no difference. Reading a field goes
to the column that is found so. The two look-ups undo each other if no field and no column is listed
twice, and in general a column leads back to the first field listed with it. -/
theorem lookups_after (columnsOf : String → List (String × String)) (calls : List (List String))
    (type : String) :
    (∀ field, (after columnsOf calls).columnFor? type field =
      if type ∈ calls.flatten then (ColumnMap.of columnsOf type).column? field else none) ∧
    (∀ column, (after columnsOf calls).fieldFor? type column =
      if type ∈ calls.flatten then (ColumnMap.of columnsOf type).field? column else none) ∧
    (∀ others : List (List String), (type ∈ others.flatten ↔ type ∈ calls.flatten) → ∀ name,
      (after columnsOf others).columnFor? type name = (after columnsOf calls).columnFor? type name ∧
      (after columnsOf others).fieldFor? type name = (after columnsOf calls).fieldFor? type name) ∧
    (∀ (α : Type) (read : String → α) (field : String),
      readField (after columnsOf calls) type field read =
        match (after columnsOf calls).columnFor? type field with
        | some column => read column
        | none => read field) ∧
    (type ∈ calls.flatten → ((columnsOf type).map Prod.fst).Nodup →
      ((columnsOf type).map Prod.snd).Nodup → ∀ field column,
        (after columnsOf calls).columnFor? type field = some column ↔
          (after columnsOf calls).fieldFor? type column = some field) ∧
    ∀ field column, (after columnsOf calls).columnFor? type field = some column →
      ∃ before first behind, columnsOf type = before ++ (first, column) :: behind ∧
        (∀ pair ∈ before, pair.2 ≠ column) ∧
        (after columnsOf calls).fieldFor? type column = some first := by
  refine ⟨columnFor?_after, fieldFor?_after, ?_, ?_, ?_, ?_⟩
  · intro others hothers name
    simp only [columnFor?_after, fieldFor?_after, hothers, and_self]
  · intro α read field
    rw [readField]
    cases (after columnsOf calls).columnFor? type field <;> rfl
  · intro hmem hfields hcolumns field column
    rw [columnFor?_after, fieldFor?_after, if_pos hmem, if_pos hmem,
      ColumnMap.column?_eq_some_iff_mem hfields, ColumnMap.field?_eq_some_iff_mem hcolumns]
  · intro field column hcolumn
    rw [columnFor?_after] at hcolumn
    split at hcolumn
    case isTrue hmem =>
      obtain ⟨first, hfirst⟩ := ColumnMap.exists_field?_of_column? hcolumn
      obtain ⟨before, behind, hcolumns, hbefore⟩ := ColumnMap.field?_eq_some_iff.mp hfirst
      exact ⟨before, first, behind, hcolumns, hbefore, by rw [fieldFor?_after, if_pos hmem, hfirst]⟩
    case isFalse => cases hcolumn

/-- A type whose two columns trade names, and one with a column that two fields share. -/
def tradedColumns : String → List (String × String)
  | "Swap" => [("a", "b"), ("b", "a")]
  | "Dup" => [("a", "x"), ("a", "y"), ("b", "x")]
  | _ => []

theorem lookups_after_tradedColumns :
    ("Swap" ∈ [["Swap"]].flatten ↔ "Swap" ∈ [["Dup", "Swap"], ["Swap"]].flatten) ∧
    (after tradedColumns [["Swap"]]).columnFor? "Swap" "a" =
      (after tradedColumns [["Dup", "Swap"], ["Swap"]]).columnFor? "Swap" "a" ∧
    "Swap" ∈ [["Dup", "Swap"], ["Swap"]].flatten ∧
    ((tradedColumns "Swap").map Prod.fst).Nodup ∧ ((tradedColumns "Swap").map Prod.snd).Nodup ∧
    ((after tradedColumns [["Dup", "Swap"], ["Swap"]]).columnFor? "Swap" "a" = some "b" ↔
      (after tradedColumns [["Dup", "Swap"], ["Swap"]]).fieldFor? "Swap" "b" = some "a") ∧
    (after tradedColumns [["Dup", "Swap"], ["Swap"]]).columnFor? "Dup" "b" = some "x" ∧
    ∃ before first behind, tradedColumns "Dup" = before ++ (first, "x") :: behind ∧
      (∀ pair ∈ before, pair.2 ≠ "x") ∧
      (after tradedColumns [["Dup", "Swap"], ["Swap"]]).fieldFor? "Dup" "x" = some first := by
  have hothers : "Swap" ∈ [["Swap"]].flatten ↔
      "Swap" ∈ [["Dup", "Swap"], ["Swap"]].flatten := by decide
  have hmem : "Swap" ∈ [["Dup", "Swap"], ["Swap"]].flatten := by decide
  have hfields : ((tradedColumns "Swap").map Prod.fst).Nodup := by decide
  have hcolumns : ((tradedColumns "Swap").map Prod.snd).Nodup := by decide
  have hdup : (after tradedColumns [["Dup", "Swap"], ["Swap"]]).columnFor? "Dup" "b" =
      some "x" := by decide
  obtain ⟨-, -, hsame, -, hinverse, -⟩ :=
    lookups_after tradedColumns [["Dup", "Swap"], ["Swap"]] "Swap"
  obtain ⟨-, -, -, -, -, hfirst⟩ :=
    lookups_after tradedColumns [["Dup", "Swap"], ["Swap"]] "Dup"
  exact ⟨hothers, (hsame _ hothers "a").1, hmem, hfields, hcolumns,
    hinverse hmem hfields hcolumns "a" "b", hdup, hfirst "b" "x" hdup⟩

end Registry
end TypedQuery.Rows

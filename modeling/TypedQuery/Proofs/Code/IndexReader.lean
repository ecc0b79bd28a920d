import TypedQuery.Code.Index
import TypedQuery.Proofs.Code.Constant
import TypedQuery.Proofs.Code.UnitName

/-! The files that an index includes, as a compiler reads it. -/
namespace TypedQuery.Code

/-- What an include line begins with. The path follows as a literal. -/
def includeHead : String := "include!(concat!(env!(\"OUT_DIR\"), "

/-- The name of the file in the output directory that a line includes. -/
def includedName? (line : List Char) : Option (List Char) :=
  match (Query.after? includeHead.toList line).bind readLiteral with
  | some ('/' :: name, [')', ')', ';']) => some name
  | _ => none

def includedNames (text : String) : List String :=
  ((text.toList.splitOn '\n').filterMap includedName?).map .ofList

/-- The lines that come before the include lines. -/
def indexHead : List String := ["// @generated by dipper. Do not edit.", ""]

theorem ne_of_isFileChar {c : Char} (h : isFileChar c) :
    c ≠ '\x22' ∧ c ≠ '\r' ∧ c ≠ '\\' ∧ c ≠ '\n' := by
  refine ⟨?_, ?_, ?_, ?_⟩ <;>
  · rintro rfl
    revert h
    decide

/-- Text without quotes, backslashes and carriage returns reads as it stands. -/
theorem readQuoted_append_quote {text : List Char} (rest : List Char)
    (h : ∀ c ∈ text, c ≠ '\x22' ∧ c ≠ '\r' ∧ c ≠ '\\') :
    readQuoted (text ++ '\x22' :: rest) = some (text, rest) := by
  induction text with
  | nil => rw [List.nil_append, readQuoted, if_pos rfl]
  | cons c text ih =>
    obtain ⟨⟨hquote, hreturn, hbackslash⟩, htail⟩ := List.forall_mem_cons.mp h
    rw [List.cons_append, readQuoted_plain hquote hreturn hbackslash, ih htail]
    rfl

theorem toList_includeLine (name : String) : (includeLine name).toList =
    includeHead.toList ++ '\x22' :: ('/' :: name.toList ++ '\x22' :: [')', ')', ';']) := by
  have hhead : "include!(concat!(env!(\"OUT_DIR\"), \"/" = includeHead ++ "\"/" := by decide
  have hline : includeLine name = includeHead ++ "\"/" ++ name ++ "\"));" := by
    rw [← hhead]
    rfl
  rw [hline]
  simp

theorem includedName?_includeLine {name : String} (h : ∀ c ∈ name.toList, isFileChar c) :
    includedName? (includeLine name).toList = some name.toList := by
  have hplain : ∀ c ∈ '/' :: name.toList, c ≠ '\x22' ∧ c ≠ '\r' ∧ c ≠ '\\' := by
    rw [List.forall_mem_cons]
    refine ⟨by decide, fun c hc => ?_⟩
    obtain ⟨hquote, hreturn, hbackslash, _⟩ := ne_of_isFileChar (h c hc)
    exact ⟨hquote, hreturn, hbackslash⟩
  rw [includedName?, toList_includeLine, Query.after?_append, Option.bind_some, readLiteral,
    readQuoted_append_quote _ hplain]
  rfl

theorem newline_not_mem_includeLine {name : String} (h : ∀ c ∈ name.toList, isFileChar c) :
    '\n' ∉ (includeLine name).toList := by
  have hhead : '\n' ∉ includeHead.toList := by decide
  have hname : '\n' ∉ name.toList := fun hmem => (ne_of_isFileChar (h _ hmem)).2.2.2 rfl
  rw [toList_includeLine]
  simp [hhead, hname]

theorem filterMap_includeLine {names : List String}
    (h : ∀ name ∈ names, ∀ c ∈ name.toList, isFileChar c) :
    ((names.map includeLine).map (·.toList)).filterMap includedName? = names.map (·.toList) := by
  induction names with
  | nil => rfl
  | cons name names ih =>
    obtain ⟨hname, hnames⟩ := List.forall_mem_cons.mp h
    simp only [List.map_cons]
    rw [List.filterMap_cons_some (includedName?_includeLine hname), ih hnames]

/-- Lines without line feeds are found again. -/
theorem splitOn_ofLines {lines : List String} (h : ∀ line ∈ lines, '\n' ∉ line.toList) :
    (ofLines lines).toList.splitOn '\n' = lines.map (·.toList) ++ [[]] := by
  induction lines with
  | nil => rfl
  | cons line lines ih =>
    obtain ⟨hline, hlines⟩ := List.forall_mem_cons.mp h
    rw [toList_ofLines_cons, List.splitOn_append_cons_self, List.splitOn_eq_singleton hline,
      ih hlines]
    rfl

/-- An index includes the files that it was made for. -/
theorem includedNames_indexSource {names : List String}
    (h : ∀ name ∈ names, ∀ c ∈ name.toList, isFileChar c) :
    includedNames (indexSource names) = names := by
  have hhead : ∀ line ∈ indexHead, '\n' ∉ line.toList := by decide
  have hlines : ∀ line ∈ indexHead ++ names.map includeLine, '\n' ∉ line.toList := by
    intro line hline
    rcases List.mem_append.mp hline with hline | hline
    · exact hhead line hline
    · obtain ⟨name, hname, rfl⟩ := List.mem_map.mp hline
      exact newline_not_mem_includeLine (h name hname)
  have hnone : (indexHead.map (·.toList)).filterMap includedName? = [] := by decide
  have hend : [[]].filterMap includedName? = [] := rfl
  change includedNames (ofLines (indexHead ++ names.map includeLine)) = names
  rw [includedNames, splitOn_ofLines hlines, List.map_append, List.filterMap_append,
    List.filterMap_append, hnone, hend, filterMap_includeLine h, List.nil_append, List.append_nil,
    List.map_map]
  exact (List.map_congr_left fun name _ => String.ofList_toList).trans (List.map_id names)

end TypedQuery.Code

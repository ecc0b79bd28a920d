import TypedQuery.Proofs.Code.Constant
import TypedQuery.Proofs.Code.UnitName
import TypedQuery.Proofs.Query.Name

/-! The lines of a unit that name its query and its file. -/
namespace TypedQuery.Code

def sourceLines (metadata : QueryMetadata) (settings : CodegenSettings) : List (List Char) :=
  Text.lines (GeneratedUnit.ofMetadata metadata settings).source.toList

/-- The names of the query and of its file stand in two comments. On the lines behind them nothing
is left of these names but that of the type. -/
structure ConfinesNames (metadata : QueryMetadata) (settings : CodegenSettings) : Prop where
  banner : (sourceLines metadata settings)[0]? = some (bannerLine metadata.sourceFile).toList
  blank : (sourceLines metadata settings)[1]? = some []
  doc : (sourceLines metadata settings)[2]? =
    some (docLine metadata.queryName metadata.sourceFile).toList
  type : (sourceLines metadata settings)[5]? =
    some ("pub struct " ++ typeName metadata.queryName ++ ";").toList
  elsewhere : ∀ query file : String, '\n' ∉ query.toList → '\n' ∉ file.toList →
    typeName query = typeName metadata.queryName →
      (sourceLines { metadata with queryName := query, sourceFile := file } settings).drop 3 =
        (sourceLines metadata settings).drop 3

variable {metadata : QueryMetadata} {settings : CodegenSettings} {line query file : String}

section Lines

theorem toList_bannerLine (file : String) : (bannerLine file).toList =
    "// @generated by dipper from `".toList ++ file.toList ++ "`. Do not edit.".toList := by
  rw [← String.toList_append, ← String.toList_append]
  rfl

theorem toList_docLine (query file : String) : (docLine query file).toList =
    "/// Query `".toList ++ query.toList ++ "` from `".toList ++ file.toList ++ "`.".toList := by
  rw [← String.toList_append, ← String.toList_append, ← String.toList_append,
    ← String.toList_append]
  rfl

theorem newline_mem_bannerLine_iff : '\n' ∈ (bannerLine file).toList ↔ '\n' ∈ file.toList := by
  have hfront : '\n' ∉ "// @generated by dipper from `".toList := by decide
  have hback : '\n' ∉ "`. Do not edit.".toList := by decide
  rw [toList_bannerLine, List.mem_append, or_iff_left hback, List.mem_append, or_iff_right hfront]

theorem newline_mem_docLine_iff :
    '\n' ∈ (docLine query file).toList ↔ '\n' ∈ query.toList ∨ '\n' ∈ file.toList := by
  have hfront : '\n' ∉ "/// Query `".toList := by decide
  have hmiddle : '\n' ∉ "` from `".toList := by decide
  have hback : '\n' ∉ "`.".toList := by decide
  rw [toList_docLine, List.mem_append, or_iff_left hback, List.mem_append, List.mem_append,
    or_iff_left hmiddle, List.mem_append, or_iff_right hfront]

theorem newline_not_mem_typeName (query : String) : '\n' ∉ (typeName query).toList := fun hmem =>
  absurd (isNameChar_of_mem_typeName hmem) (by decide +kernel)

/-- A line that does not end in a carriage return is found as it was written. -/
theorem lines_ofLines_cons (lines : List String) (h : '\n' ∉ line.toList)
    (hend : line.toList.getLast? ≠ some '\r') :
    Text.lines (ofLines (line :: lines)).toList =
      line.toList :: Text.lines (ofLines lines).toList := by
  rw [toList_ofLines_cons, Text.lines_append_newline h, Text.dropReturn, if_neg hend]

end Lines

section Source

theorem sourceLines_eq : sourceLines metadata settings =
    Text.lines (ofLines (unitLines metadata settings)).toList := by
  simp only [sourceLines, GeneratedUnit.ofMetadata]

theorem unitLines_head (metadata : QueryMetadata) (settings : CodegenSettings) :
    unitLines metadata settings = bannerLine metadata.sourceFile :: "" ::
      docLine metadata.queryName metadata.sourceFile :: (unitLines metadata settings).drop 3 := by
  simp only [unitLines, headLines, List.cons_append, List.drop_succ_cons, List.drop_zero]

theorem drop_unitLines_eq (metadata : QueryMetadata) (settings : CodegenSettings) :
    ∃ rest, (unitLines metadata settings).drop 3 =
      "#[allow(dead_code, non_camel_case_types)]" :: "#[derive(Debug, Clone, Copy, Default)]" ::
        ("pub struct " ++ typeName metadata.queryName ++ ";") :: rest := by
  refine ⟨(unitLines metadata settings).drop 6, ?_⟩
  simp only [unitLines, headLines, List.cons_append, List.drop_succ_cons, List.drop_zero]
  rfl

theorem drop_unitLines_congr (file : String) (h : typeName query = typeName metadata.queryName) :
    (unitLines { metadata with queryName := query, sourceFile := file } settings).drop 3 =
      (unitLines metadata settings).drop 3 := by
  simp only [unitLines, headLines, inputLines, inputName, helpers, h, List.cons_append,
    List.drop_succ_cons, List.drop_zero]

theorem sourceLines_head (metadata : QueryMetadata) (settings : CodegenSettings)
    (hquery : '\n' ∉ metadata.queryName.toList) (hfile : '\n' ∉ metadata.sourceFile.toList) :
    sourceLines metadata settings = (bannerLine metadata.sourceFile).toList :: [] ::
      (docLine metadata.queryName metadata.sourceFile).toList ::
        Text.lines (ofLines ((unitLines metadata settings).drop 3)).toList := by
  have hbanner : '\n' ∉ (bannerLine metadata.sourceFile).toList :=
    mt newline_mem_bannerLine_iff.mp hfile
  have hdoc : '\n' ∉ (docLine metadata.queryName metadata.sourceFile).toList :=
    mt newline_mem_docLine_iff.mp (not_or.mpr ⟨hquery, hfile⟩)
  have hbannerEnd : (bannerLine metadata.sourceFile).toList.getLast? ≠ some '\r' := by
    rw [toList_bannerLine, List.getLast?_append]
    exact nofun
  have hdocEnd : (docLine metadata.queryName metadata.sourceFile).toList.getLast? ≠ some '\r' := by
    rw [toList_docLine, List.getLast?_append]
    exact nofun
  rw [sourceLines_eq, unitLines_head, lines_ofLines_cons _ hbanner hbannerEnd,
    lines_ofLines_cons _ (by decide) (by decide), lines_ofLines_cons _ hdoc hdocEnd]
  rfl

/-- Names without line feeds are confined. -/
theorem confinesNames_of_newline_not_mem (settings : CodegenSettings)
    (hquery : '\n' ∉ metadata.queryName.toList) (hfile : '\n' ∉ metadata.sourceFile.toList) :
    ConfinesNames metadata settings := by
  have hhead := sourceLines_head metadata settings hquery hfile
  constructor
  case banner => rw [hhead, List.getElem?_cons_zero]
  case blank => rw [hhead, List.getElem?_cons_succ, List.getElem?_cons_zero]
  case doc => rw [hhead, List.getElem?_cons_succ, List.getElem?_cons_succ, List.getElem?_cons_zero]
  case type =>
    obtain ⟨rest, hrest⟩ := drop_unitLines_eq metadata settings
    have hline : '\n' ∉ ("pub struct " ++ typeName metadata.queryName ++ ";").toList := by
      have hfront : '\n' ∉ "pub struct ".toList := by decide
      rw [String.toList_append, String.toList_append, List.mem_append, List.mem_append,
        or_iff_right hfront, or_iff_right (newline_not_mem_typeName _)]
      decide
    have hend : ("pub struct " ++ typeName metadata.queryName ++ ";").toList.getLast? ≠
        some '\r' := by
      rw [String.toList_append, List.getLast?_append]
      exact nofun
    rw [hhead, hrest, lines_ofLines_cons _ (by decide) (by decide),
      lines_ofLines_cons _ (by decide) (by decide), lines_ofLines_cons _ hline hend]
    rfl
  case elsewhere =>
    intro query file hquery' hfile' htype
    rw [hhead, sourceLines_head _ settings hquery' hfile', drop_unitLines_congr file htype]
    rfl

theorem ConfinesNames.newline_not_mem (h : ConfinesNames metadata settings) :
    '\n' ∉ metadata.sourceFile.toList := fun hmem =>
  Text.newline_not_mem_of_mem_lines (List.mem_of_getElem? h.banner)
    (newline_mem_bannerLine_iff.mpr hmem)

end Source

/-- Only a line feed in the name of the file can get out of the comments. One in the text cannot,
for a name in the text stands on one line. -/
theorem confinesNames_ofFile_iff (fileName text : String) (settings : CodegenSettings) :
    ConfinesNames (.ofSource (.ofFile fileName text)) settings ↔ '\n' ∉ fileName.toList := by
  refine ⟨fun h => h.newline_not_mem, fun hfile => ?_⟩
  refine confinesNames_of_newline_not_mem settings (fun hmem => ?_) hfile
  rcases QueryMetadata.mem_of_mem_queryName_ofFile hmem with ⟨_, hne⟩ | hmem
  · exact hne rfl
  · exact hfile hmem

/-- What follows the line feed stands on a line of its own. -/
theorem not_confinesNames_brokenFile :
    (sourceLines (.ofSource (.ofFile "a\nb.sql" "SELECT 1")) {})[1]? =
        some "b.sql`. Do not edit.".toList ∧
      ¬ ConfinesNames (.ofSource (.ofFile "a\nb.sql" "SELECT 1")) {} := by
  have hbanner : (bannerLine "a\nb.sql").toList =
      "// @generated by dipper from `a".toList ++ '\n' :: "b.sql`. Do not edit.".toList := by decide
  refine ⟨?_, fun h => h.newline_not_mem (by decide)⟩
  have hfile : (QueryMetadata.ofSource (.ofFile "a\nb.sql" "SELECT 1")).sourceFile =
      "a\nb.sql" := rfl
  have hline : Text.dropReturn "b.sql`. Do not edit.".toList = "b.sql`. Do not edit.".toList := by
    decide
  rw [sourceLines_eq, unitLines_head, hfile, toList_ofLines_cons, hbanner, List.append_assoc,
    List.cons_append, Text.lines_append_newline (by decide), Text.lines_append_newline (by decide),
    List.getElem?_cons_succ, List.getElem?_cons_zero, hline]

end TypedQuery.Code

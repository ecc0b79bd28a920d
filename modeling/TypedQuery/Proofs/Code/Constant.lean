import TypedQuery.Code.Unit
import TypedQuery.Proofs.Code.Literal
import TypedQuery.Proofs.Query.Directive

/-! The constants of a unit hold the SQL of its query. -/
namespace TypedQuery.Code

/-- The value of a constant declared at the front of the text, and what follows its line. -/
def readConstant (name : String) (text : List Char) : Option (List Char × List Char) :=
  match (Query.after? (constantHead name).toList text).bind readLiteral with
  | some (value, ';' :: '\n' :: rest) => some (value, rest)
  | _ => none

theorem readConstant_constantLine (name value : String) (rest : List Char) :
    readConstant name ((constantLine name value).toList ++ '\n' :: rest) =
      some (value.toList, rest) ↔ HasLiteral value.toList := by
  have hline : (constantLine name value).toList ++ '\n' :: rest =
      (constantHead name).toList ++ (literal value.toList ++ ';' :: '\n' :: rest) := by
    simp [constantLine, stringLiteral]
  rw [← readLiteral_literalWith Text.isInvisible value.toList (';' :: '\n' :: rest), hline,
    readConstant, Query.after?_append, Option.bind_some]
  change (match readLiteral (literal value.toList ++ ';' :: '\n' :: rest) with
    | some (value, ';' :: '\n' :: rest) => some (value, rest)
    | _ => none) = _ ↔ readLiteral (literal value.toList ++ ';' :: '\n' :: rest) = _
  split
  · next found after hread => simp [hread]
  · next hother =>
    refine iff_of_false (by simp) ?_
    intro hread
    exact hother _ _ hread

theorem toList_ofLines_cons (line : String) (lines : List String) :
    (ofLines (line :: lines)).toList = line.toList ++ '\n' :: (ofLines lines).toList := by
  simp [ofLines]

theorem toList_ofLines_append (lines after : List String) :
    (ofLines (lines ++ after)).toList = (ofLines lines).toList ++ (ofLines after).toList := by
  simp [ofLines]

theorem unitLines_eq (metadata : QueryMetadata) (settings : CodegenSettings) :
    unitLines metadata settings =
      headLines metadata ++ constantLine "SQL" metadata.cleanedSql ::
        (["", boundDocLine settings.dialect] ++ constantLine "BOUND_SQL"
          (Query.bindPlaceholders metadata.cleanedSql metadata.parameters settings.dialect).1 ::
            ((helpers metadata settings).lines ++ ["\x7d"])) := by
  simp only [unitLines, List.append_assoc, List.cons_append, List.nil_append]

/-- The source of a unit around its two constants. -/
theorem toList_source (metadata : QueryMetadata) (settings : CodegenSettings) :
    (GeneratedUnit.ofMetadata metadata settings).source.toList =
      (ofLines (headLines metadata)).toList ++
        ((constantLine "SQL" metadata.cleanedSql).toList ++ '\n' ::
          ((ofLines ["", boundDocLine settings.dialect]).toList ++
            ((constantLine "BOUND_SQL" (Query.bindPlaceholders metadata.cleanedSql
              metadata.parameters settings.dialect).1).toList ++ '\n' ::
              (ofLines ((helpers metadata settings).lines ++ ["\x7d"])).toList))) := by
  have hsource : (GeneratedUnit.ofMetadata metadata settings).source =
      ofLines (unitLines metadata settings) := by
    simp only [GeneratedUnit.ofMetadata]
  rw [hsource, unitLines_eq, toList_ofLines_append, toList_ofLines_cons (constantLine "SQL" _),
    toList_ofLines_append, toList_ofLines_cons (constantLine "BOUND_SQL" _)]

/-- A literal reads as its text, whatever follows and whichever characters are written by their
numbers, exactly if the text needs no more hashes than are allowed. So the constants of a unit are
the cleaned SQL and the SQL with placeholders. -/
theorem readLiteral_eq_some_iff_and_constants :
    (∀ (hidden : Char → Bool) (text rest : List Char),
      readLiteral (literalWith hidden text ++ rest) = some (text, rest) ↔
        '\r' ∈ text ∨ ¬ ClosesWith maxHashes text) ∧
    ∀ (metadata : QueryMetadata) (settings : CodegenSettings), ∃ sqlDecl boundDecl : List Char,
      (GeneratedUnit.ofMetadata metadata settings).source.toList =
        (ofLines (headLines metadata)).toList ++ sqlDecl ∧
      (ofLines ["", boundDocLine settings.dialect]).toList ++ boundDecl <:+ sqlDecl ∧
      (readConstant "SQL" sqlDecl = some (metadata.cleanedSql.toList,
          (ofLines ["", boundDocLine settings.dialect]).toList ++ boundDecl) ↔
        HasLiteral metadata.cleanedSql.toList) ∧
      (readConstant "BOUND_SQL" boundDecl = some ((Query.bindPlaceholders metadata.cleanedSql
            metadata.parameters settings.dialect).1.toList,
          (ofLines ((helpers metadata settings).lines ++ ["\x7d"])).toList) ↔
        HasLiteral (Query.bindPlaceholders metadata.cleanedSql metadata.parameters
          settings.dialect).1.toList) := by
  constructor
  · exact readLiteral_literalWith
  · intro metadata settings
    have hsource := toList_source metadata settings
    refine ⟨_, _, hsource, ?_, readConstant_constantLine _ _ _, readConstant_constantLine _ _ _⟩
    exact ⟨(constantLine "SQL" metadata.cleanedSql).toList ++ ['\n'], by simp⟩

end TypedQuery.Code

import TypedQuery.Query.Directive
import TypedQuery.Query.Source
import TypedQuery.Sql.Reference

/-! What a query file declares. -/
namespace TypedQuery

/-- A parameter with the type token it was declared with. -/
structure Parameter where
  name : String
  sqlType : String
  deriving DecidableEq, Repr

/-- Everything that code is emitted from. Without a result type the query gives untyped rows. -/
structure QueryMetadata where
  queryName : String
  resultType : Option String
  parameters : List Parameter
  cleanedSql : String
  sourceFile : String
  deriving DecidableEq, Repr

namespace Query

/-- Keeps the first parameter of each name. -/
def distinctNames : List Parameter → List Parameter
  | [] => []
  | p :: rest => p :: (distinctNames rest).filter (·.name ≠ p.name)

/-- The declared parameters in order. A later declaration of the same name does not count. -/
def parameters (text : String) : List Parameter :=
  distinctNames <| (Sql.declarations text.toList).map fun (name, type) =>
    { name := .ofList name, sqlType := .ofList type }

/-- The text with each `@name:type` as `@name`. -/
def cleanSql (text : String) : String := .ofList (Sql.clean text.toList)

end Query

namespace QueryMetadata

/-- The metadata of a text; a query without a name takes `baseName`. -/
def ofText (baseName text : String) : QueryMetadata :=
  { queryName := (Query.metadataValue text "name").getD baseName
    resultType := Query.metadataValue text "result"
    parameters := Query.parameters text
    cleanedSql := Query.cleanSql text
    sourceFile := baseName ++ ".sql" }

def ofSource (unit : SourceUnit) : QueryMetadata :=
  { ofText unit.name unit.text with sourceFile := unit.fileName }

end QueryMetadata
end TypedQuery

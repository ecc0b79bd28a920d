import TypedQuery.Path.Name

/-! Query files as they are handed in. -/
namespace TypedQuery

/-- One query file. Its name is the one that the query has by default. -/
structure SourceUnit where
  name : String
  fileName : String
  text : String
  deriving DecidableEq, Repr

namespace SourceUnit

/-- The stem of the file's name, or all of it where it is no path to a file. -/
def defaultName (fileName : List Char) : List Char :=
  match Path.fileName? '/' '.' fileName with
  | some name => (Path.splitExtension '.' name).1
  | none => fileName

def ofFile (fileName text : String) : SourceUnit :=
  { name := .ofList (defaultName fileName.toList), fileName, text }

end SourceUnit
end TypedQuery

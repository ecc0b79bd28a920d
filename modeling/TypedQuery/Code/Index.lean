import TypedQuery.Code.Unit

/-! The index, a file that includes the units of all queries. -/
namespace TypedQuery.Code

def includeLine (fileName : String) : String :=
  s!"include!(concat!(env!(\"OUT_DIR\"), \"/{fileName}\"));"

/-- The index of files with the given names, in that order. -/
def indexSource (fileNames : List String) : String :=
  ofLines (["// @generated by dipper. Do not edit.", ""] ++ fileNames.map includeLine)

end TypedQuery.Code

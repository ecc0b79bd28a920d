/-! Names of variants. -/
namespace TypedQuery.Text

/-- What is said about a name that is none of the variants. -/
def unknownVariant (name : String) (variants : List String) : String :=
  let known := ", ".intercalate (variants.map fun v => s!"`{v}`")
  s!"unknown variant `{name}`, expected one of {known}"

end TypedQuery.Text

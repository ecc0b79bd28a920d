import TypedQuery.Text.Alphanumeric

/-! Names of the emitted code. -/
namespace TypedQuery.Code

/-- Reserved words that a raw identifier may spell. -/
def keywords : List String :=
  ["abstract", "as", "async", "await", "become", "box", "break", "const", "continue", "do",
   "dyn", "else", "enum", "extern", "false", "final", "fn", "for", "gen", "if", "impl", "in",
   "let", "loop", "macro", "match", "mod", "move", "mut", "override", "priv", "pub", "ref",
   "return", "static", "struct", "trait", "true", "try", "type", "typeof", "unsafe", "unsized",
   "use", "virtual", "where", "while", "yield"]

/-- Reserved words that stay reserved when written raw. -/
def fixedKeywords : List String := ["crate", "self", "Self", "super", "_"]

/-- Whether the first character is one of the ten digits. -/
def startsWithDigit (name : List Char) : Bool := name.head?.any Char.isDigit

/-- The field of a parameter: its name, with the least change that makes it no reserved word and
no number. -/
def fieldIdent (name : String) : String :=
  if name ∈ fixedKeywords then name ++ "_"
  else if name ∈ keywords then "r#" ++ name
  else if startsWithDigit name.toList then "_" ++ name
  else name

/-- The stem of a type name: what a name cannot hold becomes an underscore, and a digit does not
come first. -/
def typeStem (name : List Char) : List Char :=
  let kept := name.map fun c => if Text.isAlphanumeric c || c = '_' then c else '_'
  if kept = [] || startsWithDigit kept then '_' :: kept else kept

def typeIdent (name : String) : String := .ofList (typeStem name.toList)

def hasPathSeparator : List Char → Bool
  | ':' :: ':' :: _ => true
  | _ :: rest => hasPathSeparator rest
  | [] => false

/-- A row type as a path: dots separate its parts where no double colon does. -/
def resultPath (reference : String) : String :=
  if hasPathSeparator reference.toList then reference
  else .ofList (reference.toList.flatMap fun c => if c = '.' then [':', ':'] else [c])

end TypedQuery.Code

import TypedQuery.Toml.Moment
import TypedQuery.Toml.Number

/-! Values: scalars, arrays and inline tables. -/
namespace TypedQuery.Toml

open Scan

/-- Arrays and inline tables nest less deeply than this, and a key has fewer parts. -/
def depthLimit : Nat := 80

def spanned {α : Type} (step : Scan α) : Scan (α × Span) := do
  let start ← position
  let value ← step
  return (value, ⟨start, ← position⟩)

def separatedRest {α : Type} (separator : Char) (part : Scan α) : Nat → Scan (List α)
  | 0 => return []
  | fuel + 1 => do
    let next ← attempt do
      char separator
      part
    match next with
    | some item => return item :: (← separatedRest separator part fuel)
    | none => return []

/-- Parts with a separator between them, of which there may be none. -/
def separated {α : Type} (separator : Char) (part : Scan α) : Scan (List α) := do
  match ← attempt part with
  | some item => return item :: (← separatedRest separator part (← rest).length)
  | none => return []

/-- The parts of a key, with blanks around the dots. -/
def key : Scan (List Key) := do
  let part := do
    spaces
    let (name, span) ← spanned simpleKey
    spaces
    return { name, span : Key }
  let parts ← separated '.' part
  if parts = [] ∨ depthLimit ≤ parts.length then fail else return parts

def scalar : Scan Scalar := do
  match (← rest).head? with
  | none => fail
  | some c =>
    if c = '\x22' ∨ c = '\x27' then return .string (← string)
    else if c = 't' then
      chars ['t', 'r', 'u', 'e']
      return .bool true
    else if c = 'f' then
      chars ['f', 'a', 'l', 's', 'e']
      return .bool false
    else
      first
        [do moment; return .moment,
         do return .float (← decimalFloat),
         do return .float (← specialFloat),
         do return .int (← integer)]

/-- Puts a value into an inline table. Dotted keys share the tables that they make on their way,
and no others. -/
def insertInline (value : Item) : List Key → Key → Members → Option Members
  | [], last, members =>
    Members.update last (fun
      | none => some value
      | some _ => none) members
  | step :: path, last, members =>
    Members.update step (fun
      | none => do return .inline none true (← insertInline value path last [])
      | some (.inline span true inner) => do
        return .inline span true (← insertInline value path last inner)
      | some _ => none) members

/-- Puts a value into an inline table under a key of one part or more. -/
def insertPair (members : Members) (pair : List Key × Item) : Option Members := do
  let last ← pair.1.getLast?
  insertInline pair.2 pair.1.dropLast last members

def array (element : Scan Item) : Scan (List Item) := do
  char '['
  let part := do
    anyBlank
    let value ← element
    anyBlank
    return value
  let items ← separated ',' part
  if items ≠ [] then
    let _ ← attempt (char ',')
  anyBlank
  char ']'
  return items

def inlineTable (element : Scan Item) : Scan Members := do
  char '\x7b'
  let part := do
    let path ← key
    char '='
    spaces
    let value ← element
    spaces
    return (path, value)
  let pairs ← separated ',' part
  spaces
  char '\x7d'
  match pairs.foldlM insertPair [] with
  | some members => return members
  | none => fail

/-- A value at a depth. Each step inward counts down from the limit. -/
def valueWithin : Nat → Scan Item
  | 0 => fail
  | 1 => do
    let (value, span) ← spanned scalar
    return .scalar span value
  | depth + 1 => do
    if ← sees ['['] then
      let (items, span) ← spanned (array (valueWithin depth))
      return .array span items
    else if ← sees ['\x7b'] then
      let (members, span) ← spanned (inlineTable (valueWithin depth))
      return .inline (some span) false members
    else
      let (value, span) ← spanned scalar
      return .scalar span value

def value : Scan Item := valueWithin depthLimit

end TypedQuery.Toml

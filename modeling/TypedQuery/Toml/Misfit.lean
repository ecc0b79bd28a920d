import TypedQuery.Decimal.Layout
import TypedQuery.Text.Variant
import TypedQuery.Toml.Item

/-! Documents that do not say what they are read for, and reports about them. -/
namespace TypedQuery.Toml

inductive Fault where
  /-- It is of another kind than `expected`. -/
  | invalidType (found expected : String)
  | unknownVariant (name : String) (variants : List String)
  /-- It is a table for a variant without a member. -/
  | noElement
  /-- It is a table for a variant with more than one member. -/
  | manyElements
  /-- It is neither the name of a variant nor a table. -/
  | noVariant
  /-- The variant has a content, which should be empty. -/
  | content (expected : String)
  deriving DecidableEq, Repr

structure Misfit where
  span : Option Span
  fault : Fault
  deriving DecidableEq, Repr

namespace Fault

def message : Fault → String
  | invalidType found expected => s!"invalid type: {found}, expected {expected}"
  | unknownVariant name variants => Text.unknownVariant name variants
  | noElement => "wanted exactly 1 element, found 0 elements"
  | manyElements => "wanted exactly 1 element, more than 1 element"
  | noVariant => "wanted string or table"
  | content expected => s!"expected {expected}"

end Fault

namespace Misfit

/-- Gives the misfit a place if it has none. -/
def orAt (span : Option Span) (misfit : Misfit) : Misfit :=
  { misfit with span := misfit.span.or span }

/-- Line and column, from zero, of a position in a text. -/
def lineAndColumn (text : List Char) (position : Nat) : Nat × Nat :=
  let before := text.take position
  (before.count '\n', (before.reverse.takeWhile (· ≠ '\n')).length)

def byteCount (text : List Char) : Nat := text.foldl (fun n c => n + c.utf8Size) 0

/-- The lines that show a place in a text. A caret stands below each of its bytes on the first
line, and at least one. -/
def excerpt (text : List Char) (span : Span) : String :=
  let (line, column) := lineAndColumn text span.start
  let content := ((text.splitOn '\n')[line]?).getD []
  let number := toString (line + 1)
  let width := byteCount ((text.take span.stop).drop span.start)
  let carets := max 1 (min width (byteCount content - column))
  let margin := .ofList (List.replicate (number.length + 1) ' ') ++ "|"
  s!"TOML parse error at line {number}, column {column + 1}\n" ++
  margin ++ "\n" ++
  number ++ " | " ++ .ofList content ++ "\n" ++
  margin ++ .ofList (List.replicate (column + 1) ' ' ++ List.replicate carets '^') ++ "\n"

/-- The report on a misfit in the text it was found in. -/
def report (text : List Char) (misfit : Misfit) : String :=
  ((misfit.span.map (excerpt text)).getD "") ++ misfit.fault.message ++ "\n"

end Misfit
end TypedQuery.Toml

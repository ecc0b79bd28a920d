/-! Lines of a text. -/
namespace TypedQuery.Text

/-- Removes one carriage return at the end. -/
def dropReturn (line : List Char) : List Char :=
  if line.getLast? = some '\r' then line.dropLast else line

/-- A line feed ends a line, together with one carriage return before it. What follows the last
line feed is a line of its own unless it is empty, and keeps its carriage returns. -/
def lines (text : List Char) : List (List Char) :=
  let pieces := text.splitOn '\n'
  pieces.dropLast.map dropReturn ++ (pieces.getLast?.filter (· ≠ [])).toList

example : lines "a\r\nb\n\nc\r".toList = ["a".toList, "b".toList, [], "c\r".toList] := by decide

example : lines [] = [] ∧ lines ['\n'] = [[]] := by decide

end TypedQuery.Text

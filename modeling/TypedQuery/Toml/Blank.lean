import TypedQuery.Toml.Cursor

/-! Blanks, comments and ends of lines. -/
namespace TypedQuery.Toml

open Scan

/-- A character that may stand in a comment: a tab, or one that is no control. -/
def isPlain (c : Char) : Bool := c = '\t' || (' ' ≤ c && c ≠ '\x7f')

def isSpace (c : Char) : Bool := c = ' ' || c = '\t'

def spaces : Scan Unit := do
  let _ ← many isSpace

/-- A line feed, or a carriage return and a line feed. -/
def newline : Scan Unit := first [char '\n', chars ['\r', '\n']]

def comment : Scan Unit := do
  char '#'
  let _ ← many isPlain

/-- The end of a line or of the text. -/
def lineEnd : Scan Unit := do
  if ← atEnd then return else newline

/-- Blanks, perhaps a comment, and the end of the line. -/
def lineRest : Scan Unit := do
  spaces
  let _ ← attempt comment
  lineEnd

/-- Blanks, line ends and comments. Each takes a character at least. -/
def blankLines : Nat → Scan Unit
  | 0 => return
  | fuel + 1 => do
    spaces
    if ← sees ['#'] then
      comment
      newline
      blankLines fuel
    else if (← attempt newline).isSome then blankLines fuel
    else return

def anyBlank : Scan Unit := do blankLines ((← rest).length + 1)

end TypedQuery.Toml

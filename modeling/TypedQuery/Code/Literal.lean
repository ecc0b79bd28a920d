import TypedQuery.Text.Quoted

/-! String literals of the emitted code. -/
namespace TypedQuery.Code

/-- How many hashes have followed a double quote directly, once `c` is read. -/
def closeRun (run : Option Nat) (c : Char) : Option Nat :=
  if c = '\x22' then some 0 else if c = '#' then run.map (· + 1) else none

/-- The longest run of hashes, when reading goes on in `run` and `longest` is the longest yet. -/
def longestCloseFrom (run : Option Nat) (longest : Nat) : List Char → Nat
  | [] => longest
  | c :: rest =>
    let next := closeRun run c
    longestCloseFrom next (max longest (next.getD 0)) rest

/-- The longest run of hashes that follows a double quote directly. -/
def longestClose (text : List Char) : Nat := longestCloseFrom none 0 text

/-- A literal that stands for `text`, character for character. A raw literal has one hash more
than any quote inside is followed by, so that only its own end closes it. It cannot hold a
carriage return; text with one is quoted. -/
def literalWith (hidden : Char → Bool) (text : List Char) : List Char :=
  if '\r' ∈ text then Text.quotedWith hidden text
  else
    let hashes := List.replicate (longestClose text + 1) '#'
    'r' :: hashes ++ '\x22' :: text ++ '\x22' :: hashes

def literal (text : List Char) : List Char := literalWith Text.isInvisible text

def stringLiteral (text : String) : String := .ofList (literal text.toList)

end TypedQuery.Code

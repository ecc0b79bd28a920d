import TypedQuery.Toml.Blank

/-! Strings and keys. -/
namespace TypedQuery.Toml

open Scan

def isHexDigit (c : Char) : Bool := c.isDigit || ('a' ≤ c && c ≤ 'f') || ('A' ≤ c && c ≤ 'F')

def hexValue (c : Char) : Nat :=
  if c.isDigit then c.toNat - '0'.toNat
  else if 'a' ≤ c then c.toNat - 'a'.toNat + 10
  else c.toNat - 'A'.toNat + 10

/-- The character with a number of `n` hexadecimal digits. -/
def numbered (n : Nat) : Scan Char := do
  let digits ← exactly n isHexDigit
  let code := digits.foldl (fun value c => value * 16 + hexValue c) 0
  if code.isValidChar then return .ofNat code else fail

def escape : Scan Char := do
  match ← one fun _ => true with
  | 'b' => return '\x08'
  | 't' => return '\t'
  | 'n' => return '\n'
  | 'f' => return '\x0c'
  | 'r' => return '\r'
  | '\x22' => return '\x22'
  | '\\' => return '\\'
  | 'u' => numbered 4
  | 'U' => numbered 8
  | _ => fail

/-- A backslash, blanks and a line end, and all blanks and line ends after them. -/
def lineFold : Scan Unit := do
  char '\\'
  spaces
  newline
  let rec more : Nat → Scan Unit
    | 0 => return
    | fuel + 1 => do
      spaces
      if (← attempt newline).isSome then more fuel else return
  more ((← rest).length + 1)

/-- A part of a text between quotes that stretches over lines or does not. -/
def textPart (quote : Char) (escapes multiline : Bool) : Scan (List Char) :=
  let plain := do return [← one fun c => isPlain c && c ≠ quote && !(escapes && c = '\\')]
  let escaped := do
    char '\\'
    return [← escape]
  let folded := do
    lineFold
    return []
  let broken := do
    newline
    return ['\n']
  first <| [plain] ++ (if escapes && multiline then [folded] else []) ++
    (if escapes then [escaped] else []) ++ (if multiline then [broken] else [])

def textParts (part : Scan (List Char)) : Nat → Scan (List Char)
  | 0 => return []
  | fuel + 1 => do
    match ← attempt part with
    | some text => return text ++ (← textParts part fuel)
    | none => return []

/-- One or two quotes that do not belong to three. -/
def innerQuotes (quote : Char) : Scan (List Char) := do
  let quotes := (← rest).takeWhile (· = quote)
  if quotes.length = 1 ∨ quotes.length = 2 then
    chars quotes
    return quotes
  else fail

def singleLine (quote : Char) (escapes : Bool) : Scan String := do
  char quote
  let text ← textParts (textPart quote escapes false) (← rest).length
  char quote
  return .ofList text

/-- A text between threefold quotes. A line end right after the opening ones does not count, and
up to two quotes may stand before the closing ones. -/
def multiLine (quote : Char) (escapes : Bool) : Scan String := do
  let fence := List.replicate 3 quote
  chars fence
  let _ ← attempt newline
  let part := first [textPart quote escapes true, innerQuotes quote]
  let text ← textParts part (← rest).length
  let last := ((← rest).takeWhile (· = quote)).take 5
  if last.length < 3 then fail
  else
    chars last
    return .ofList (text ++ last.drop 3)

def string : Scan String := do
  if ← sees (List.replicate 3 '\x22') then multiLine '\x22' true
  else if ← sees (List.replicate 3 '\x27') then multiLine '\x27' false
  else first [singleLine '\x22' true, singleLine '\x27' false]

def isBareKey (c : Char) : Bool := c.isAlphanum || c = '_' || c = '-'

def simpleKey : Scan String := do
  if ← sees ['\x22'] then singleLine '\x22' true
  else if ← sees ['\x27'] then singleLine '\x27' false
  else return .ofList (← many1 isBareKey)

end TypedQuery.Toml

import TypedQuery.Decimal.Layout
import TypedQuery.Json.Basic

/-! JSON text. -/
namespace TypedQuery.Json

def escapeChar (c : Char) : List Char :=
  if c = '\x22' then ['\\', '\x22']
  else if c = '\\' then ['\\', '\\']
  else if c = '\n' then ['\\', 'n']
  else if c = '\r' then ['\\', 'r']
  else if c = '\t' then ['\\', 't']
  else if c = '\x08' then ['\\', 'b']
  else if c = '\x0c' then ['\\', 'f']
  else if c.toNat < 0x20 then
    let digits := Nat.toDigits 16 c.toNat
    '\\' :: 'u' :: List.replicate (4 - digits.length) '0' ++ digits
  else [c]

def stringText (s : String) : String :=
  .ofList ('\x22' :: s.toList.flatMap escapeChar ++ ['\x22'])

/-- The text of a value that is no array and no object. -/
def scalarText : Json → String
  | .null => "null"
  | .bool value => if value then "true" else "false"
  | .int value => toString value
  | .float value => Decimal.compactText value
  | .string value => stringText value
  | .array _ | .object _ => ""

mutual

def compact : Json → String
  | .array items => "[" ++ ",".intercalate (compactItems items) ++ "]"
  | .object members => "\x7b" ++ ",".intercalate (compactMembers members) ++ "\x7d"
  | scalar => scalarText scalar

def compactItems : List Json → List String
  | [] => []
  | item :: rest => compact item :: compactItems rest

def compactMembers : List (String × Json) → List String
  | [] => []
  | (name, value) :: rest => (stringText name ++ ":" ++ compact value) :: compactMembers rest

end

/-- Two spaces for each level. -/
def indent (level : Nat) : String := .ofList (List.replicate (2 * level) ' ')

/-- Parts on lines of their own between brackets, one level deeper. -/
def block (level : Nat) (opening closing : String) (parts : List String) : String :=
  if parts = [] then opening ++ closing
  else
    opening ++ "\n" ++ ",\n".intercalate (parts.map (indent (level + 1) ++ ·)) ++ "\n" ++
      indent level ++ closing

mutual

/-- The text of a value at a level, a line for each part. -/
def prettyAt (level : Nat) : Json → String
  | .array items => block level "[" "]" (prettyItems level items)
  | .object members => block level "\x7b" "\x7d" (prettyMembers level members)
  | scalar => scalarText scalar

def prettyItems (level : Nat) : List Json → List String
  | [] => []
  | item :: rest => prettyAt (level + 1) item :: prettyItems level rest

def prettyMembers (level : Nat) : List (String × Json) → List String
  | [] => []
  | (name, value) :: rest =>
    (stringText name ++ ": " ++ prettyAt (level + 1) value) :: prettyMembers level rest

end

def pretty (json : Json) : String := prettyAt 0 json

end TypedQuery.Json

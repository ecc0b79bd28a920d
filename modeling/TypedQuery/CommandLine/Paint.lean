/-! Coloured text. -/
namespace TypedQuery.CommandLine

inductive Look where
  | bold
  | dimmed
  | red
  | green
  | yellow
  | cyan
  | white
  deriving DecidableEq, Repr

def Look.code : Look → String
  | bold => "1"
  | dimmed => "2"
  | red => "31"
  | green => "32"
  | yellow => "33"
  | cyan => "36"
  | white => "37"

/-- What ends a look. -/
def plainLook : String := "\x1b[0m"

/-- The text with `look` after each end of another look in it. -/
def resume (look : List Char) : List Char → List Char
  | '\x1b' :: '[' :: '0' :: 'm' :: rest => plainLook.toList ++ look ++ resume look rest
  | c :: rest => c :: resume look rest
  | [] => []

/-- A text that looks like this where colours are on. A bold or dimmed look stands before the
colour. -/
def paint (colours : Bool) (looks : List Look) (text : String) : String :=
  if colours then
    let look := "\x1b[" ++ ";".intercalate (looks.map Look.code) ++ "m"
    look ++ .ofList (resume look.toList text.toList) ++ plainLook
  else text

def padTo (width : Nat) (text : String) : String :=
  text ++ .ofList (List.replicate (width - text.length) ' ')

end TypedQuery.CommandLine

import TypedQuery.Text.Invisible

/-! Quoted text, in which every character shows. -/
namespace TypedQuery.Text

/-- A character inside a quoted text that writes the `hidden` characters by their numbers. -/
def quoteCharWith (hidden : Char → Bool) (c : Char) : List Char :=
  if c = '\x00' then ['\\', '0']
  else if c = '\t' then ['\\', 't']
  else if c = '\r' then ['\\', 'r']
  else if c = '\n' then ['\\', 'n']
  else if c = '\\' then ['\\', '\\']
  else if c = '\x22' then ['\\', '\x22']
  else if hidden c then '\\' :: 'u' :: '\x7b' :: Nat.toDigits 16 c.toNat ++ ['\x7d']
  else [c]

def quotedWith (hidden : Char → Bool) (text : List Char) : List Char :=
  '\x22' :: text.flatMap (quoteCharWith hidden) ++ ['\x22']

def quoted (text : List Char) : List Char := quotedWith isInvisible text

end TypedQuery.Text

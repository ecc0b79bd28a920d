/-! Cancel tokens. -/
namespace TypedQuery.Build

/-- Tokens by number. Each holds the number of a flag, which its clones share with it. -/
structure CancelTokens where
  flagOf : List Nat
  flags : List Bool
  deriving DecidableEq, Repr

namespace CancelTokens

def empty : CancelTokens := ⟨[], []⟩

/-- Adds a token with a flag of its own. -/
def fresh (tokens : CancelTokens) : CancelTokens :=
  { flagOf := tokens.flagOf ++ [tokens.flags.length], flags := tokens.flags ++ [false] }

/-- Adds a token that shares the flag of `token`. -/
def clone (tokens : CancelTokens) (token : Nat) : CancelTokens :=
  match tokens.flagOf[token]? with
  | some flag => { tokens with flagOf := tokens.flagOf ++ [flag] }
  | none => tokens

def cancel (tokens : CancelTokens) (token : Nat) : CancelTokens :=
  match tokens.flagOf[token]? with
  | some flag => { tokens with flags := tokens.flags.set flag true }
  | none => tokens

def isCancelled (tokens : CancelTokens) (token : Nat) : Bool :=
  ((tokens.flagOf[token]?).bind (tokens.flags[·]?)).getD false

end CancelTokens
end TypedQuery.Build

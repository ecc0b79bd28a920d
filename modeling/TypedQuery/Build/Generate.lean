import TypedQuery.Code.Index
import TypedQuery.Failure

/-! The units of many query files. -/
namespace TypedQuery.Build

/-- The units of query files in order. Before the file at each place `cancelled` is asked, and one
yes leaves nothing. -/
def generateAll (settings : CodegenSettings) (cancelled : Nat → Bool) (units : List SourceUnit) :
    Except Failure (List GeneratedUnit) :=
  go 0 units
where
  go (done : Nat) : List SourceUnit → Except Failure (List GeneratedUnit)
    | [] => .ok []
    | unit :: rest =>
      if cancelled done then .error .cancelled
      else (go (done + 1) rest).map (.ofSource unit settings :: ·)

end TypedQuery.Build

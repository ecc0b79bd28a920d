import TypedQuery.Failure
import TypedQuery.Store.Host

/-! Query files below a directory. -/
namespace TypedQuery.Build

/-- Whether a path has the extension of SQL, in any case. -/
def isSqlPath (path : Path) : Bool :=
  path.extension.any fun ext => ext.map (fun b => if 0x41 ≤ b ∧ b ≤ 0x5a then b + 0x20 else b) = utf8 "sql"

/-- The SQL paths below a directory, down to a depth. -/
def sqlPathsWithin (host : Host) : Nat → Path → List Path
  | 0, _ => []
  | depth + 1, dir =>
    match host.store.resolve host.cwd dir with
    | .error _ => []
    | .ok loc =>
      (host.store.children loc).flatMap fun name =>
        let path := dir.join ⟨name⟩
        if host.isDir path then sqlPathsWithin host depth path
        else if isSqlPath path then [path]
        else []

/-- The SQL paths below a directory. No path goes deeper than it is long. -/
def sqlPaths (host : Host) (dir : Path) : List Path :=
  sqlPathsWithin host Path.lengthLimit dir

/-- Name by name, each by its bytes. -/
def precedes (a b : Path) : Bool := a.names ≤ b.names

def readSource (host : Host) (path : Path) : Except Failure SourceUnit :=
  match host.readText path with
  | .error cause => .error (.io path cause)
  | .ok text => .ok (.ofFile (((path.fileName).map Text.lossy).getD "") text)

/-- The query files below a directory in the order of their paths. Where there is no directory
there are none. -/
def collect (host : Host) (dir : Path) : Except Failure (List SourceUnit) :=
  if host.isDir dir then ((sqlPaths host dir).mergeSort precedes).mapM (readSource host)
  else .ok []

end TypedQuery.Build

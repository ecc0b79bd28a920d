import TypedQuery.Store.Basic
import TypedQuery.Store.OsError

/-! From paths to locations. -/
namespace TypedQuery

inductive Place where
  | found (loc : Location)
  /-- Only the last name on the way is missing. -/
  | missing (loc : Location)
  deriving DecidableEq, Repr

namespace Path

/-- A path is shorter than this, in bytes. -/
def lengthLimit : Nat := 4096

/-- The steps of a path. A slash at the end asks for a directory, as a single dot does. -/
def steps (path : Path) : List Name :=
  (path.bytes.splitOn slash).filter (· ≠ []) ++ if path.hasTrailingSlash then [[dot]] else []

/-- What keeps a path from being looked up at all. -/
def fault? (path : Path) : Option OsError :=
  if 0 ∈ path.bytes then some .nulInPath
  else if path.bytes = [] then some .notFound
  else if lengthLimit ≤ path.bytes.length then some .nameTooLong
  else none

end Path

namespace Store

/-- A name is no longer than this, in bytes. -/
def nameLimit : Nat := 255

/-- So many links are followed on one way. -/
def linkLimit : Nat := 40

/-- Takes steps from a location, with `jump` for those that a link leads to. Each step but the last
has to lead to a directory. -/
def walkVia (store : Store) (jump : Location → List Name → Except OsError Place) (loc : Location) :
    List Name → Except OsError Place
  | [] => .ok (.found loc)
  | name :: rest =>
    if store.get? loc ≠ some .dir then .error .notADirectory
    else if nameLimit < name.length then .error .nameTooLong
    else if name = [Path.dot] then store.walkVia jump loc rest
    else if name = [Path.dot, Path.dot] then store.walkVia jump loc.dropLast rest
    else
      match store.get? (loc ++ [name]) with
      | none => if rest = [] then .ok (.missing (loc ++ [name])) else .error .notFound
      | some (.link target) => jump (if target.isAbsolute then [] else loc) (target.steps ++ rest)
      | some _ => store.walkVia jump (loc ++ [name]) rest

/-- Takes steps from a location. A link is replaced by the steps of its target, `links` times at
most. -/
def walk (store : Store) : (links : Nat) → Location → List Name → Except OsError Place
  | 0 => store.walkVia fun _ _ => .error .tooManyLinks
  | links + 1 => store.walkVia fun loc steps => store.walk links loc steps

/-- Where a path leads, seen from a directory. -/
def place (store : Store) (cwd : Location) (path : Path) : Except OsError Place :=
  match path.fault? with
  | some e => .error e
  | none => store.walk linkLimit (if path.isAbsolute then [] else cwd) path.steps

def resolve (store : Store) (cwd : Location) (path : Path) : Except OsError Location :=
  match store.place cwd path with
  | .ok (.found loc) => .ok loc
  | .ok (.missing _) => .error .notFound
  | .error e => .error e

/-- The entry that a path leads to. Links are followed, so it is none. -/
def entryAt? (store : Store) (cwd : Location) (path : Path) : Option Entry :=
  match store.resolve cwd path with
  | .ok loc => store.get? loc
  | .error _ => none

def isDir (store : Store) (cwd : Location) (path : Path) : Bool :=
  store.entryAt? cwd path = some .dir

def isFile (store : Store) (cwd : Location) (path : Path) : Bool :=
  match store.entryAt? cwd path with
  | some (.file _) => true
  | _ => false

end Store
end TypedQuery

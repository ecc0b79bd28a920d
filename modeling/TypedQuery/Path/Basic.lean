import TypedQuery.Path.Name
import TypedQuery.Text.Utf8

/-! Paths as byte sequences. -/
namespace TypedQuery

/-- A path as it is written. Its bytes need not be UTF-8. -/
structure Path where
  bytes : List UInt8
  deriving DecidableEq, Repr

/-- A name of a directory entry. -/
abbrev Name := List UInt8

def utf8 (text : String) : List UInt8 := text.toByteArray.data.toList

namespace Path

def slash : UInt8 := 0x2f

def dot : UInt8 := 0x2e

def ofString (text : String) : Path := ⟨utf8 text⟩

def display (path : Path) : String := Text.lossy path.bytes

def isAbsolute (path : Path) : Bool := path.bytes.head? = some slash

def hasTrailingSlash (path : Path) : Bool := path.bytes.getLast? = some slash

/-- The path `relative` seen from `base`. An absolute path stays what it is. -/
def join (base relative : Path) : Path :=
  if relative.isAbsolute then relative
  else if base.bytes = [] ∨ base.hasTrailingSlash then ⟨base.bytes ++ relative.bytes⟩
  else ⟨base.bytes ++ slash :: relative.bytes⟩

/-- The names on the way, without empty ones and single dots. -/
def names (path : Path) : List Name := parts slash dot path.bytes

def fileName (path : Path) : Option Name := fileName? slash dot path.bytes

def extension (path : Path) : Option Name :=
  path.fileName.bind fun name => (splitExtension dot name).2

/-- The path with these names, from the root if `absolute`. -/
def ofNames (absolute : Bool) (names : List Name) : Path :=
  let relative := [slash].intercalate names
  ⟨if absolute then slash :: relative else relative⟩

/-- The names of a path, where a single dot counts if nothing comes before it. -/
def components (path : Path) : List Name :=
  if path.isAbsolute then path.names
  else match path.bytes.splitOn slash with
    | first :: _ => if first = [dot] then [dot] :: path.names else path.names
    | [] => []

/-- The paths above a path, the longest first, down to the empty path or the root. -/
def ancestors (path : Path) : List Path :=
  (List.range path.components.length).reverse.map fun n =>
    ofNames path.isAbsolute (path.components.take n)

end Path
end TypedQuery

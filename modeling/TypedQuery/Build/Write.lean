import TypedQuery.Code.Index
import TypedQuery.Failure
import TypedQuery.Store.Host

/-! Writing units and their index. -/
namespace TypedQuery.Build

/-- What was written. The index is not counted. -/
structure WriteSummary where
  written : Nat
  unchanged : Nat
  index : Path
  deriving DecidableEq, Repr

/-- The first unit whose type has the name of an earlier one, and that earlier one. -/
def duplicate? : List GeneratedUnit → List GeneratedUnit → Option (GeneratedUnit × GeneratedUnit)
  | _, [] => none
  | seen, unit :: rest =>
    match seen.find? (·.typeName = unit.typeName) with
    | some first => some (first, unit)
    | none => duplicate? (unit :: seen) rest

def byTypeName (units : List GeneratedUnit) : List GeneratedUnit :=
  units.mergeSort fun a b => a.typeName ≤ b.typeName

/-- Writes a text to a file unless that is its content already, and tells whether it did. -/
def writeIfChanged (cwd : Location) (store : Store) (path : Path) (text : String) :
    Except Failure (Bool × Store) :=
  if (store.readText cwd path).toOption = some text then .ok (false, store)
  else
    match store.writeText cwd path text with
    | .ok store => .ok (true, store)
    | .error cause => .error (.io path cause)

/-- How many files were written and how many were as they should be. -/
structure Tally where
  written : Nat
  unchanged : Nat
  deriving DecidableEq, Repr

def Tally.add (tally : Tally) (changed : Bool) : Tally :=
  if changed then { tally with written := tally.written + 1 }
  else { tally with unchanged := tally.unchanged + 1 }

def unitPath (out : Path) (unit : GeneratedUnit) : Path := out.join (.ofString unit.fileName)

def indexPath (settings : BuildSettings) (out : Path) : Path := out.join (.ofString settings.indexFile)

/-- Writes units one after the other and counts them. A failure leaves the later ones alone. -/
def writeUnits (cwd : Location) (out : Path) :
    List GeneratedUnit → Store → Except Failure Tally × Store
  | [], store => (.ok ⟨0, 0⟩, store)
  | unit :: rest, store =>
    match writeIfChanged cwd store (unitPath out unit) unit.source with
    | .error failure => (.error failure, store)
    | .ok (changed, store) =>
      let (result, store) := writeUnits cwd out rest store
      (result.map (·.add changed), store)

/-- Writes the units, ordered by their types, and then the index into a directory, which is made if
need be. Nothing is done if two of them have a type in common. -/
def write (settings : BuildSettings) (cwd : Location) (out : Path) (units : List GeneratedUnit)
    (store : Store) : Except Failure WriteSummary × Store :=
  match duplicate? [] units with
  | some (first, second) =>
    (.error (.duplicateQuery second.typeName first.sourceFile second.sourceFile), store)
  | none =>
    match store.makeDirs cwd out with
    | (.error cause, store) => (.error (.io out cause), store)
    | (.ok _, store) =>
      let sorted := byTypeName units
      match writeUnits cwd out sorted store with
      | (.error failure, store) => (.error failure, store)
      | (.ok tally, store) =>
        let index := indexPath settings out
        match writeIfChanged cwd store index (Code.indexSource (sorted.map (·.fileName))) with
        | .error failure => (.error failure, store)
        | .ok (_, store) => (.ok ⟨tally.written, tally.unchanged, index⟩, store)

end TypedQuery.Build

/-! File names inside paths. A path is a list of symbols, two of which are the slash and the dot. -/
namespace TypedQuery.Path

variable {α : Type} [DecidableEq α]

/-- The parts between slashes that name something: an empty part and a single dot name nothing. -/
def parts (slash dot : α) (path : List α) : List (List α) :=
  (path.splitOn slash).filter fun part => part ≠ [] ∧ part ≠ [dot]

/-- The last part of a path, unless it is the two dots of the parent. -/
def fileName? (slash dot : α) (path : List α) : Option (List α) :=
  (parts slash dot path).getLast?.filter (· ≠ [dot, dot])

/-- A file name as the stem before its last dot and the extension after it. A name without a dot,
and one whose only dot comes first, are all stem. -/
def splitExtension (dot : α) (name : List α) : List α × Option (List α) :=
  match name.reverse.dropWhile (· ≠ dot) with
  | [] | [_] => (name, none)
  | _ :: stem => (stem.reverse, some (name.reverse.takeWhile (· ≠ dot)).reverse)

example : splitExtension '.' "report.v2.sql".toList = ("report.v2".toList, some "sql".toList) ∧
    splitExtension '.' ".sql".toList = (".sql".toList, none) ∧
    splitExtension '.' "...".toList = ("..".toList, some []) := by decide

end TypedQuery.Path

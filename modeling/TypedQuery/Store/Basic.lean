import TypedQuery.Path.Basic

/-! A file system as a value. -/
namespace TypedQuery

/-- The names that lead from the root to a directory entry. -/
abbrev Location := List Name

inductive Entry where
  | file (content : ByteArray)
  | dir
  | link (target : Path)

instance : DecidableEq Entry
  | .file a, .file b => decidable_of_iff (a.data = b.data) (by cases a; cases b; simp)
  | .dir, .dir => .isTrue rfl
  | .link p, .link q => decidable_of_iff (p = q) (by simp)
  | .file _, .dir | .file _, .link _ | .dir, .file _ | .dir, .link _ | .link _, .file _
  | .link _, .dir => .isFalse nofun

/-- The entries of a file system below its root, in the order in which a directory lists them. -/
structure Store where
  entries : List (Location × Entry)

namespace Store

def empty : Store := ⟨[]⟩

/-- The entry at a location. The root is a directory. -/
def get? (store : Store) (loc : Location) : Option Entry :=
  if loc = [] then some .dir else store.entries.lookup loc

/-- Sets the entry at a location, which keeps its place in the order if it has one. -/
def set (store : Store) (loc : Location) (entry : Entry) : Store :=
  ⟨go store.entries⟩
where
  go : List (Location × Entry) → List (Location × Entry)
    | [] => [(loc, entry)]
    | (other, old) :: rest => if other = loc then (loc, entry) :: rest else (other, old) :: go rest

/-- Removes a location and everything below it. -/
def remove (store : Store) (loc : Location) : Store :=
  ⟨store.entries.filter fun (other, _) => !loc.isPrefixOf other⟩

def children (store : Store) (loc : Location) : List Name :=
  store.entries.filterMap fun (other, _) =>
    if other.dropLast = loc then other.getLast? else none

theorem get?_nil (store : Store) : store.get? [] = some .dir := by simp [get?]

theorem get?_set_same (store : Store) {loc : Location} (h : loc ≠ []) (entry : Entry) :
    (store.set loc entry).get? loc = some entry := by
  simp only [get?, h, if_false, set]
  induction store.entries with
  | nil => simp [set.go]
  | cons head rest ih =>
    obtain ⟨other, old⟩ := head
    by_cases ho : other = loc
    · simp [set.go, ho]
    · have : (loc == other) = false := by simpa using Ne.symm ho
      simp [set.go, ho, List.lookup_cons, this, ih]

theorem get?_set_other (store : Store) {loc other : Location} (h : other ≠ loc) (entry : Entry) :
    (store.set loc entry).get? other = store.get? other := by
  simp only [get?, set]
  split
  · rfl
  · induction store.entries with
    | nil => simp [set.go, List.lookup_cons, show (other == loc) = false by simpa using h]
    | cons head rest ih =>
      obtain ⟨first, old⟩ := head
      by_cases hf : first = loc
      · simp [set.go, hf, List.lookup_cons, show (other == loc) = false by simpa using h]
      · simp only [set.go, hf, if_false, List.lookup_cons, ih]

end Store
end TypedQuery

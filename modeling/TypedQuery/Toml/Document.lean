import TypedQuery.Toml.Value

/-! Documents: tables built from lines. -/
namespace TypedQuery.Toml

open Scan

inductive Line where
  | pair (path : List Key) (value : Item)
  | header (array : Bool) (path : List Key) (span : Span)

def pairLine : Scan Line := do
  let path ← key
  char '='
  spaces
  let item ← value
  lineRest
  return .pair path item

/-- The header of a table, or of a table in an array. -/
def headerLine : Scan Line := do
  let array ← sees ['[', '[']
  let brackets := if array then 2 else 1
  let (path, span) ← spanned do
    chars (List.replicate brackets '[')
    let path ← key
    chars (List.replicate brackets ']')
    return path
  lineRest
  return .header array path span

/-- The lines of a document. Each takes a character at least. -/
def documentLines : Nat → Scan (List Line)
  | 0 => fail
  | fuel + 1 => do
    spaces
    match (← rest).head? with
    | none => return []
    | some c =>
      if c = '#' then
        comment
        lineEnd
        documentLines fuel
      else if c = '\n' ∨ c = '\r' then
        newline
        documentLines fuel
      else
        let line ← if c = '[' then headerLine else pairLine
        return line :: (← documentLines fuel)

/-- A document may start with a byte order mark. -/
def document : Scan (List Line) := do
  let _ ← attempt (char '\ufeff')
  documentLines ((← rest).length + 1)

/-- Changes the members of the table at a path, and makes the tables that are not there. Of an
array of tables the last one is meant. A dotted key does not lead into a table with a header. -/
def Members.changeAt (dotted : Bool) (change : Option Origin → Members → Option Members) :
    List Key → Option Origin → Members → Option Members
  | [], origin, members => change origin members
  | step :: path, _, members =>
    Members.update step (fun
      | none => do
        let origin := if dotted then Origin.dotted else .path
        return .table none origin (← Members.changeAt dotted change path (some origin) [])
      | some (.table span origin inner) =>
        if dotted && origin = .header then none
        else do
          return .table span origin (← Members.changeAt dotted change path (some origin) inner)
      | some (.tables items) =>
        match items.getLast? with
        | some (.table span origin inner) => do
          return .tables <| items.dropLast ++
            [.table span origin (← Members.changeAt dotted change path (some origin) inner)]
        | _ => none
      | some _ => none) members

/-- Puts a value under a key. A dotted key adds only to tables that dotted keys made. -/
def Members.putPair (path : List Key) (value : Item) (members : Members) : Option Members := do
  let last ← path.getLast?
  let change (origin : Option Origin) (inner : Members) : Option Members :=
    if path.length ≠ 1 ∧ origin ≠ some .dotted then none
    else
      Members.update last (fun
        | none => some value
        | some _ => none) inner
  members.changeAt true change path.dropLast none

/-- The table that lines are added to, with the path and the place of its header. -/
structure Section where
  array : Bool
  path : List Key
  span : Span
  members : Members

def Section.close (current : Section) (root : Members) : Option Members := do
  let last ← current.path.getLast?
  let table := Item.table (some current.span) .header current.members
  root.changeAt false (fun _ inner =>
    Members.update last (fun
      | none => some (if current.array then .tables [table] else table)
      | some (.tables items) => if current.array then some (.tables (items ++ [table])) else none
      | some _ => none) inner) current.path.dropLast none

/-- Opens a section. A table that only paths mention keeps its members and moves to the end. -/
def Section.start (array : Bool) (path : List Key) (span : Span) (root : Members) :
    Option (Section × Members) := do
  let last ← path.getLast?
  let found := (parent? path.dropLast root).bind (·.find? last.name)
  let root ← root.changeAt false (fun _ inner => some inner) path.dropLast none
  match array, found with
  | _, none => return (⟨array, path, span, []⟩, root)
  | false, some (.table _ .path members) =>
    let root ← root.changeAt false (fun _ inner =>
      some (inner.filter fun member => member.1.name ≠ last.name)) path.dropLast none
    return (⟨array, path, span, members⟩, root)
  | true, some (.tables _) => return (⟨array, path, span, []⟩, root)
  | _, _ => none
where
  /-- The members of the table at a path, if it is there. -/
  parent? : List Key → Members → Option Members
    | [], members => some members
    | step :: path, members =>
      match members.find? step.name with
      | some (.table _ _ inner) => parent? path inner
      | some (.tables items) =>
        match items.getLast? with
        | some (.table _ _ inner) => parent? path inner
        | _ => none
      | _ => none

structure Draft where
  root : Members
  current : Option Section

def Draft.finish (draft : Draft) : Option Members :=
  match draft.current with
  | some current => current.close draft.root
  | none => some draft.root

/-- Adds a line. The place of a section goes on to the end of its last value. -/
def Draft.add (draft : Draft) : Line → Option Draft
  | .pair path value =>
    match draft.current with
    | none => do return { draft with root := ← draft.root.putPair path value }
    | some current => do
      let members ← current.members.putPair path value
      let stop := ((value.span?).map Span.stop).getD current.span.stop
      return { draft with
        current := some { current with members, span := ⟨current.span.start, stop⟩ } }
  | .header array path span => do
    let root ← draft.finish
    let (current, root) ← Section.start array path span root
    return ⟨root, some current⟩

/-- The members of the document that a text is, if it is one. -/
def parse (text : List Char) : Option Members := do
  let (lines, _) ← (document.run ⟨text, 0⟩ : Option (List Line × Cursor))
  let draft ← lines.foldlM Draft.add ⟨[], none⟩
  draft.finish

end TypedQuery.Toml

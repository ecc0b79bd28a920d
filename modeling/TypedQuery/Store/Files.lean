import TypedQuery.Store.Walk

/-! Reading and writing files. -/
namespace TypedQuery.Store

def readBytes (store : Store) (cwd : Location) (path : Path) : Except OsError ByteArray :=
  match store.resolve cwd path with
  | .error e => .error e
  | .ok loc =>
    match store.get? loc with
    | some (.file content) => .ok content
    | some .dir => .error .isADirectory
    | _ => .error .notFound

def readText (store : Store) (cwd : Location) (path : Path) : Except OsError String :=
  match store.readBytes cwd path with
  | .error e => .error e
  | .ok content =>
    match String.fromUTF8? content with
    | some text => .ok text
    | none => .error .notUtf8

/-- The location of an entry itself, which may be a link or missing: the last step is not
followed. -/
def entryPlace (store : Store) (cwd : Location) (path : Path) : Except OsError Place :=
  match path.fault? with
  | some e => .error e
  | none =>
    let steps := (path.bytes.splitOn Path.slash).filter (· ≠ [])
    let start := if path.isAbsolute then [] else cwd
    match steps.getLast? with
    | none => .ok (.found start)
    | some name =>
      match store.walk linkLimit start steps.dropLast with
      | .error e => .error e
      | .ok (.missing _) => .error .notFound
      | .ok (.found parent) =>
        if store.get? parent ≠ some .dir then .error .notADirectory
        else if nameLimit < name.length then .error .nameTooLong
        else if name = [Path.dot] then .ok (.found parent)
        else if name = [Path.dot, Path.dot] then .ok (.found parent.dropLast)
        else if (store.get? (parent ++ [name])).isSome then .ok (.found (parent ++ [name]))
        else .ok (.missing (parent ++ [name]))

/-- Replaces the content of the file at a path, or makes the file in a directory that is there. A
path that ends in a slash names a directory even where there is none. -/
def writeBytes (store : Store) (cwd : Location) (path : Path) (content : ByteArray) :
    Except OsError Store :=
  if path.hasTrailingSlash then
    match store.entryPlace cwd path with
    | .error e => .error e
    | .ok _ => .error .isADirectory
  else
    match store.place cwd path with
    | .error e => .error e
    | .ok (.missing loc) => .ok (store.set loc (.file content))
    | .ok (.found loc) =>
      match store.get? loc with
      | some .dir => .error .isADirectory
      | _ => .ok (store.set loc (.file content))

def writeText (store : Store) (cwd : Location) (path : Path) (text : String) :
    Except OsError Store :=
  store.writeBytes cwd path text.toByteArray

def makeDir (store : Store) (cwd : Location) (path : Path) : Except OsError Store :=
  match store.entryPlace cwd path with
  | .error e => .error e
  | .ok (.found _) => .error .alreadyExists
  | .ok (.missing loc) => .ok (store.set loc .dir)

def refusal? {α : Type} : Except OsError α → Option OsError
  | .error e => some e
  | .ok _ => none

def ensureDir (store : Store) (cwd : Location) (path : Path) : Except OsError Unit × Store :=
  match store.makeDir cwd path with
  | .ok store => (.ok (), store)
  | .error e => (if store.isDir cwd path then .ok () else .error e, store)

/-- Makes the first of some directories, each the parent of the one before it, after those of the
others that are missing. What was made stays if a later step fails. -/
def ensureChain (store : Store) (cwd : Location) : List Path → Except OsError Unit × Store
  | [] => (.ok (), store)
  | path :: parents =>
    if path.bytes = [] then (.ok (), store)
    else if refusal? (store.makeDir cwd path) = some .notFound then
      match store.ensureChain cwd parents with
      | (.error e, store) => (.error e, store)
      | (.ok _, store) => store.ensureDir cwd path
    else store.ensureDir cwd path

/-- Makes a directory and those on the way to it that are missing. -/
def makeDirs (store : Store) (cwd : Location) (path : Path) : Except OsError Unit × Store :=
  store.ensureChain cwd (path :: path.ancestors)

end TypedQuery.Store

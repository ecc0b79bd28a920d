import TypedQuery.CommandLine.Run

/-! The program: takes from the disk what a command looks at, runs it, and puts back what it
changed. -/
namespace TypedQuery.Disk

/-- The variables that make a difference. -/
def variableNames : List String :=
  ["DIPPER_CONFIG", "DIPPER_DIALECT", "DIPPER_QUERIES_DIR", "XDG_CONFIG_HOME", "HOME",
   "CLICOLOR_FORCE"]

/-- Puts a directory and those above it into a store. -/
def withDirs (store : Store) (cwd : Location) (path : String) : Store :=
  (store.makeDirs cwd (.ofString path)).2

/-- Puts what is at a path into a store, directories down to a depth. -/
def fetch (cwd : Location) (depth : Nat) (store : Store) (path : String) : IO Store := do
  let entry : IO.FS.DirEntry := { root := path, fileName := "" }
  if ← entry.root.isDir then
    let mut store := withDirs store cwd path
    if let deeper + 1 := depth then
      for child in ← entry.root.readDir do
        store ← fetch cwd deeper store (path ++ "/" ++ child.fileName)
    return store
  else if ← entry.root.pathExists then
    let content ← IO.FS.readBinFile path
    let store := match (Path.ofString path).ancestors with
      | parent :: _ => (store.makeDirs cwd parent).2
      | [] => store
    return ((store.writeBytes cwd (.ofString path) content).toOption).getD store
  else return store

def surroundings : IO Host := do
  let cwd := (Path.ofString (← IO.currentDir).toString).names
  let environment ← variableNames.filterMapM fun name => do
    return (← IO.getEnv name).map (name, ·)
  let store := (Store.empty.makeDirs [] (.ofNames true cwd)).2
  return { store, cwd, environment }

/-- The surroundings with the files that a command looks at. -/
def provide (host : Host) (invocation : CommandLine.Invocation) : IO Host := do
  let take (depth : Nat) (host : Host) (path : String) : IO Host := do
    return { host with store := ← fetch host.cwd depth host.store path }
  let userFile := (Settings.userFile? host).map Path.display
  let candidates := invocation.settingsFile.toList ++ [Settings.fileName] ++ userFile.toList
  let host ← candidates.foldlM (take 0) host
  match Settings.load host (invocation.settingsFile.map .ofString), invocation.command with
  | .error _, _ | _, .types => return host
  | .ok _, .explain file _ _ => take 0 host file
  | .ok settings, .generate dir out _ => do
    let host ← take Path.lengthLimit host (dir.getD settings.build.queriesDir)
    let host ← take 1 host out
    take 0 host ((Path.ofString out).join (.ofString settings.build.indexFile)).display

/-- Writes the entries of `after` that are not in `before`. -/
def save (before after : Store) : IO Unit := do
  for (loc, entry) in after.entries do
    let path := (Path.ofNames true loc).display
    if before.get? loc ≠ some entry then
      match entry with
      | .dir => IO.FS.createDirAll path
      | .file content => IO.FS.writeBinFile path content
      | .link _ => pure ()

end TypedQuery.Disk

def main (args : List String) : IO UInt32 := do
  let host ← TypedQuery.Disk.surroundings
  let host ←
    match TypedQuery.CommandLine.parse (host.lookup? "DIPPER_CONFIG") args with
    | .ok invocation => TypedQuery.Disk.provide host invocation
    | .error _ => pure host
  let exit := TypedQuery.CommandLine.run host args
  TypedQuery.Disk.save host.store exit.store
  IO.print exit.stdout
  IO.eprint exit.stderr
  return exit.code.toUInt32

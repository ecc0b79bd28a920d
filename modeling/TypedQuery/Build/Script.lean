import TypedQuery.Build.Collect
import TypedQuery.Build.Generate
import TypedQuery.Build.Write
import TypedQuery.Settings.Load

/-! Builds: from query files to written units. -/
namespace TypedQuery.Build

/-- What a build leaves: the lines it printed, its result, and the files. -/
structure Run where
  output : List String
  result : Except Failure WriteSummary
  store : Store

/-- Collects the query files of a directory, and generates and writes their units. -/
def generateInto (settings : Settings) (host : Host) (queries out : Path) (cancelled : Nat → Bool) :
    Except Failure WriteSummary × Store :=
  match (do generateAll settings.codegen cancelled (← collect host queries)) with
  | .error failure => (.error failure, host.store)
  | .ok units => write settings.build host.cwd out units host.store

/-- Builds the queries of a manifest's directory. The build tool is told which directory to
watch. -/
def generateWith (settings : Settings) (host : Host) (manifest out : Path)
    (cancelled : Nat → Bool) : Run :=
  let queries := manifest.join (.ofString settings.build.queriesDir)
  let (result, store) := generateInto settings host queries out cancelled
  { output := [s!"cargo:rerun-if-changed={queries.display}"], result, store }

def dirVariable (host : Host) (name : String) : Except Failure Path :=
  match host.lookup? name with
  | some dir => .ok (.ofString dir)
  | none => .error (.missingVariable name)

/-- The settings beside a manifest, or the defaults, with the overrides. -/
def manifestSettings (host : Host) (file : Path) : Except Failure Settings := do
  let settings ← if host.isFile file then Settings.ofFile host file else pure {}
  settings.override host.lookup?

/-- The build that the build tool's variables ask for. -/
def generate (host : Host) : Run :=
  match dirVariable host "CARGO_MANIFEST_DIR", dirVariable host "OUT_DIR" with
  | .error failure, _ | _, .error failure => ⟨[], .error failure, host.store⟩
  | .ok manifest, .ok out =>
    let file := manifest.join (.ofString Settings.fileName)
    let watched :=
      [s!"cargo:rerun-if-changed={file.display}",
       "cargo:rerun-if-env-changed=DIPPER_DIALECT",
       "cargo:rerun-if-env-changed=DIPPER_QUERIES_DIR"]
    match manifestSettings host file with
    | .error failure => ⟨watched, .error failure, host.store⟩
    | .ok settings =>
      let run := generateWith settings host manifest out fun _ => false
      { run with output := watched ++ run.output }

end TypedQuery.Build

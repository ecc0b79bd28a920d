import TypedQuery.Failure
import TypedQuery.Store.Host

/-! Where settings come from. -/
namespace TypedQuery.Settings

/-- The settings file's name in a working directory or beside a manifest. -/
def fileName : String := "dipper.toml"

/-- The directory for a user's settings. A relative path in the variable does not count. -/
def userDir? (environment : List (String × String)) : Option Path :=
  match (environment.lookup "XDG_CONFIG_HOME").map Path.ofString with
  | some dir => if dir.isAbsolute then some dir else homeDir?
  | none => homeDir?
where
  homeDir? : Option Path :=
    ((environment.lookup "HOME").filter (· ≠ "")).map fun home =>
      (Path.ofString home).join (.ofString ".config")

/-- Puts the values of two variables in place of what the file says. -/
def override (settings : Settings) (lookup : String → Option String) : Except Failure Settings := do
  let settings ←
    match lookup "DIPPER_DIALECT" with
    | none => pure settings
    | some text =>
      match Dialect.parse text with
      | .ok dialect => pure { settings with codegen := { settings.codegen with dialect } }
      | .error name => .error (.unknownDialect name)
  match lookup "DIPPER_QUERIES_DIR" with
  | none => pure settings
  | some queriesDir => pure { settings with build := { settings.build with queriesDir } }

/-- What the rest of the system settles: the grammar of settings files, and the directory that the
variables give for a user's settings. -/
structure Conventions where
  parse : List Char → Option Toml.Members
  userDir? : List (String × String) → Option Path

namespace Conventions

def standard : Conventions := ⟨Toml.parse, Settings.userDir?⟩

def ofFile (conventions : Conventions) (host : Host) (path : Path) : Except Failure Settings :=
  match host.readText path with
  | .error cause => .error (.io path cause)
  | .ok text => (ofText conventions.parse text).mapError .settings

def userFile? (conventions : Conventions) (host : Host) : Option Path :=
  (conventions.userDir? host.environment).map fun dir =>
    (dir.join (.ofString "dipper")).join (.ofString "config.toml")

/-- The file to read: the one asked for even if it does not exist, else the one in the working
directory, else the user's. -/
def locate (conventions : Conventions) (host : Host) (asked : Option Path) : Option Path :=
  match asked with
  | some path => some path
  | none =>
    let here := Path.ofString fileName
    if host.isFile here then some here else (conventions.userFile? host).filter host.isFile

/-- The settings of a program run in these surroundings. -/
def load (conventions : Conventions) (host : Host) (asked : Option Path) :
    Except Failure Settings := do
  let settings ←
    match conventions.locate host asked with
    | some path => conventions.ofFile host path
    | none => pure {}
  settings.override host.lookup?

end Conventions

def ofFile (host : Host) (path : Path) : Except Failure Settings :=
  Conventions.standard.ofFile host path

def userFile? (host : Host) : Option Path := Conventions.standard.userFile? host

def locate (host : Host) (asked : Option Path) : Option Path :=
  Conventions.standard.locate host asked

def load (host : Host) (asked : Option Path) : Except Failure Settings :=
  Conventions.standard.load host asked

end TypedQuery.Settings

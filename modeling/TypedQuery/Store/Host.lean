import TypedQuery.Store.Files

/-! The surroundings of a program: files, a working directory and variables. -/
namespace TypedQuery

structure Host where
  store : Store
  cwd : Location
  /-- The variables that are set to a text. One that is set to anything else counts as unset. -/
  environment : List (String × String)

namespace Host

/-- The value of a variable, if it is set to a text. -/
def lookup? (host : Host) (name : String) : Option String := host.environment.lookup name

def isDir (host : Host) (path : Path) : Bool := host.store.isDir host.cwd path

def isFile (host : Host) (path : Path) : Bool := host.store.isFile host.cwd path

def readText (host : Host) (path : Path) : Except OsError String :=
  host.store.readText host.cwd path

end Host
end TypedQuery

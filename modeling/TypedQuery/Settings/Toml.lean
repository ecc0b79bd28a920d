import TypedQuery.Settings.Basic
import TypedQuery.Toml.Document
import TypedQuery.Toml.Reader

/-! The settings file. -/
namespace TypedQuery

open Toml (Reader RecordForm)

namespace CodegenSettings

def tomlForm : RecordForm CodegenSettings :=
  ⟨"CodegenConfig",
    [("dialect", fun item settings => do
        return { settings with
          dialect := ← Reader.variant (Dialect.all.map Dialect.name) Dialect.ofName? item }),
     ("runtime_crate", fun item settings => do
        return { settings with runtimeCrate := ← Reader.string "a string" item })]⟩

end CodegenSettings

namespace BuildSettings

def tomlForm : RecordForm BuildSettings :=
  ⟨"BuildConfig",
    [("queries_dir", fun item settings => do
        return { settings with queriesDir := ← Reader.string "path string" item }),
     ("index_file", fun item settings => do
        return { settings with indexFile := ← Reader.string "a string" item })]⟩

end BuildSettings

namespace Settings

def tomlForm : RecordForm Settings :=
  ⟨"Config",
    [("codegen", fun item settings => do
        return { settings with codegen := ← CodegenSettings.tomlForm.reader {} item }),
     ("build", fun item settings => do
        return { settings with build := ← BuildSettings.tomlForm.reader {} item })]⟩

inductive FileError where
  | malformed
  | misfit (text : List Char) (misfit : Toml.Misfit)
  deriving DecidableEq, Repr

def FileError.message : FileError → String
  | malformed => "TOML parse error\n"
  | misfit text found => found.report text

/-- The settings that a text gives by a grammar of documents. What it leaves out has its default. -/
def ofText (parse : List Char → Option Toml.Members) (text : String) : Except FileError Settings :=
  match parse text.toList with
  | none => .error .malformed
  | some members =>
    (tomlForm.putMembers members {}).mapError (.misfit text.toList)

def ofToml (text : String) : Except FileError Settings := ofText Toml.parse text

end Settings
end TypedQuery

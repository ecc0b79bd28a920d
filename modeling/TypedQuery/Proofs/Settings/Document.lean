import TypedQuery.Proofs.Toml.Record
import TypedQuery.Settings.Toml

/-! What a settings file says, field by field, and the settings that come of it. -/
namespace TypedQuery

open Toml (Reader RecordForm last? said?)

namespace Dialect

def tomlReader : Reader Dialect := .variant (all.map Dialect.name) ofName?

end Dialect

theorem CodegenSettings.isField_fields :
    tomlForm.IsField "dialect" Dialect.tomlReader dialect ∧
      tomlForm.IsField "runtime_crate" (.string "a string") runtimeCrate :=
  RecordForm.isField_of_two (fun settings dialect => { settings with dialect })
    (fun settings runtimeCrate => { settings with runtimeCrate }) rfl (by decide)
    (fun _ _ => rfl) (fun _ _ => rfl) (fun _ _ => rfl) (fun _ _ => rfl)

theorem BuildSettings.isField_fields :
    tomlForm.IsField "queries_dir" (.string "path string") queriesDir ∧
      tomlForm.IsField "index_file" (.string "a string") indexFile :=
  RecordForm.isField_of_two (fun settings queriesDir => { settings with queriesDir })
    (fun settings indexFile => { settings with indexFile }) rfl (by decide)
    (fun _ _ => rfl) (fun _ _ => rfl) (fun _ _ => rfl) (fun _ _ => rfl)

namespace Settings

theorem isField_fields :
    tomlForm.IsField "codegen" (CodegenSettings.tomlForm.reader {}) codegen ∧
      tomlForm.IsField "build" (BuildSettings.tomlForm.reader {}) build :=
  RecordForm.isField_of_two (fun settings codegen => { settings with codegen })
    (fun settings build => { settings with build }) rfl (by decide)
    (fun _ _ => rfl) (fun _ _ => rfl) (fun _ _ => rfl) (fun _ _ => rfl)

/-- What a settings file says, field by field. -/
structure Stated where
  dialect : Option Dialect := none
  runtimeCrate : Option String := none
  queriesDir : Option String := none
  indexFile : Option String := none

namespace Stated

/-- What the members of a document say in its two tables. -/
def ofMembers (members : Toml.Members) : Stated where
  dialect := inTable "codegen" CodegenSettings.tomlForm Dialect.tomlReader "dialect"
  runtimeCrate := inTable "codegen" CodegenSettings.tomlForm (.string "a string") "runtime_crate"
  queriesDir := inTable "build" BuildSettings.tomlForm (.string "path string") "queries_dir"
  indexFile := inTable "build" BuildSettings.tomlForm (.string "a string") "index_file"
where
  inTable {α β : Type} (table : String) (form : RecordForm α) (read : Reader β) (name : String) :
      Option β :=
    (last? members.entries table).bind fun item => said? read (form.entries item) name

/-- The values of variables come first, then what is stated, then the defaults. -/
def settings (stated : Stated) (dialect : Option Dialect) (queriesDir : Option String) :
    Settings where
  codegen :=
    { dialect := (dialect.or stated.dialect).getD .postgres
      runtimeCrate := stated.runtimeCrate.getD "dipper" }
  build :=
    { queriesDir := (queriesDir.or stated.queriesDir).getD "queries"
      indexFile := stated.indexFile.getD "dipper_queries.rs" }

end Stated

/-- A document that is read gives what it says, and the default of each field that it leaves out. -/
theorem ofText_eq_ok {parse : List Char → Option Toml.Members} {text : String}
    {settings : Settings} (h : ofText parse text = .ok settings) :
    ∃ members, parse text.toList = some members ∧
      settings = (Stated.ofMembers members).settings none none := by
  rw [ofText] at h
  cases hparse : parse text.toList with
  | none =>
    rw [hparse] at h
    cases h
  | some members =>
    rw [hparse] at h
    dsimp only at h
    cases hput : tomlForm.putMembers members {} with
    | error misfit =>
      rw [hput] at h
      cases h
    | ok result =>
      rw [hput] at h
      obtain rfl := Except.ok.inj h
      refine ⟨members, rfl, ?_⟩
      have hentries := RecordForm.putEntries_of_putMembers hput
      obtain ⟨hcodegen, hbuild⟩ := isField_fields
      obtain ⟨hdialectField, hcrateField⟩ := CodegenSettings.isField_fields
      obtain ⟨hdirField, hindexField⟩ := BuildSettings.isField_fields
      have hdialect := hcodegen.get_inner hdialectField (by decide) rfl hentries
      have hcrate := hcodegen.get_inner hcrateField (by decide) rfl hentries
      have hdir := hbuild.get_inner hdirField (by decide) rfl hentries
      have hindex := hbuild.get_inner hindexField (by decide) rfl hentries
      obtain ⟨⟨dialect, runtimeCrate⟩, ⟨queriesDir, indexFile⟩⟩ := result
      dsimp only at hdialect hcrate hdir hindex
      rw [hdialect, hcrate, hdir, hindex]
      rfl

end Settings
end TypedQuery

import TypedQuery.Proofs.Settings.Document
import TypedQuery.Settings.Load

/-! Which settings a program runs with: two variables before the values of one file at most, and
these before the defaults. -/
namespace TypedQuery

namespace Dialect

/-- The names that people give a dialect. -/
def spellings : List (String × Dialect) :=
  [("postgres", postgres), ("postgresql", postgres), ("pg", postgres), ("mysql", mysql),
   ("mariadb", mysql), ("sqlite", sqlite)]

theorem parse_eq (text : String) : parse text =
    match spellings.lookup (normalize text) with
    | some dialect => .ok dialect
    | none => .error (normalize text) := by
  rw [parse]
  generalize normalize text = name
  split
  case h_7 hpostgres hpostgresql hpg hmysql hmariadb hsqlite =>
    have hnone : spellings.lookup name = none := by
      rw [List.lookup_eq_none_iff]
      simpa [spellings] using ⟨hpostgres, hpostgresql, hpg, hmysql, hmariadb, hsqlite⟩
    rw [hnone]
  all_goals rfl

end Dialect

namespace Settings

variable {conventions : Conventions} {host : Host} {asked file : Option Path}
  {dialect : Option Dialect}

/-- The file of a program's settings: the one asked for even if it does not exist, else the one in
the working directory, else the user's, else none. -/
inductive Uses (conventions : Conventions) (host : Host) : Option Path → Option Path → Prop where
  | asked (path : Path) : Uses conventions host (some path) (some path)
  | here (hhere : host.isFile (.ofString "dipper.toml")) :
      Uses conventions host none (some (.ofString "dipper.toml"))
  | user {dir : Path} (hhere : ¬ host.isFile (.ofString "dipper.toml"))
      (hdir : conventions.userDir? host.environment = some dir)
      (huser : host.isFile ((dir.join (.ofString "dipper")).join (.ofString "config.toml"))) :
      Uses conventions host none
        (some ((dir.join (.ofString "dipper")).join (.ofString "config.toml")))
  | nothing (hhere : ¬ host.isFile (.ofString "dipper.toml"))
      (huser : ∀ dir, conventions.userDir? host.environment = some dir →
        ¬ host.isFile ((dir.join (.ofString "dipper")).join (.ofString "config.toml"))) :
      Uses conventions host none none

/-- The file can be read and holds a document that says this. Without a file nothing is said. -/
inductive States (conventions : Conventions) (host : Host) : Option Path → Stated → Prop where
  | file {path : Path} {text : String} {members : Toml.Members} {settings : Settings}
      (hread : host.readText path = .ok text)
      (hparse : conventions.parse text.toList = some members)
      (hvalid : ofText conventions.parse text = .ok settings) :
      States conventions host (some path) (.ofMembers members)
  | nothing : States conventions host none {}

/-- The dialect that the variable names, if it is set. Blanks around the name and the case of its
letters do not matter. -/
inductive NamesDialect (host : Host) : Option Dialect → Prop where
  | set {text : String} {dialect : Dialect} (hset : host.lookup? "DIPPER_DIALECT" = some text)
      (hname : Dialect.spellings.lookup (Dialect.normalize text) = some dialect) :
      NamesDialect host (some dialect)
  | unset (hunset : host.lookup? "DIPPER_DIALECT" = none) : NamesDialect host none

/-- What comes of loading settings. A fault of the file goes before one of the variable. -/
inductive Loads (conventions : Conventions) (host : Host) (asked : Option Path) :
    Except Failure Settings → Prop where
  | unreadable {path : Path} {cause : OsError} (hfile : Uses conventions host asked (some path))
      (hread : host.readText path = .error cause) :
      Loads conventions host asked (.error (.io path cause))
  | invalid {path : Path} {text : String} {fault : FileError}
      (hfile : Uses conventions host asked (some path)) (hread : host.readText path = .ok text)
      (hfault : ofText conventions.parse text = .error fault) :
      Loads conventions host asked (.error (.settings fault))
  | unknownDialect {file : Option Path} {stated : Stated} {text : String}
      (hfile : Uses conventions host asked file) (hstated : States conventions host file stated)
      (hset : host.lookup? "DIPPER_DIALECT" = some text)
      (hname : Dialect.spellings.lookup (Dialect.normalize text) = none) :
      Loads conventions host asked (.error (.unknownDialect (Dialect.normalize text)))
  | loaded {file : Option Path} {stated : Stated} {dialect : Option Dialect}
      (hfile : Uses conventions host asked file) (hstated : States conventions host file stated)
      (hdialect : NamesDialect host dialect) :
      Loads conventions host asked
        (.ok (stated.settings dialect (host.lookup? "DIPPER_QUERIES_DIR")))

section File

theorem uses_iff : Uses conventions host asked file ↔ conventions.locate host asked = file := by
  have hname : Path.ofString fileName = .ofString "dipper.toml" := rfl
  constructor
  · rintro (path | hhere | ⟨hhere, hdir, huser⟩ | ⟨hhere, huser⟩)
    · rfl
    · rw [Conventions.locate, hname, if_pos hhere]
    · rw [Conventions.locate, hname, if_neg hhere, Conventions.userFile?, hdir]
      exact Option.filter_some_pos huser
    · rw [Conventions.locate, hname, if_neg hhere, Option.filter_eq_none_iff]
      intro path hpath
      obtain ⟨dir, hdir, rfl⟩ := Option.map_eq_some_iff.mp hpath
      exact huser dir hdir
  · rintro rfl
    cases asked with
    | some path => exact .asked path
    | none =>
      rw [Conventions.locate, hname]
      split
      case isTrue hhere => exact .here hhere
      case isFalse hhere =>
        rw [Conventions.userFile?]
        cases hdir : conventions.userDir? host.environment with
        | none => exact .nothing hhere fun dir hsome => by rw [hdir] at hsome; cases hsome
        | some dir =>
          rw [Option.map_some, Option.filter_some]
          split
          case isTrue huser => exact .user hhere hdir huser
          case isFalse huser =>
            refine .nothing hhere fun other hother => ?_
            obtain rfl := Option.some.inj (hdir.symm.trans hother)
            exact huser

/-- What the file gives before the variables are looked at. -/
def Conventions.fileSettings (conventions : Conventions) (host : Host) :
    Option Path → Except Failure Settings
  | some path => conventions.ofFile host path
  | none => .ok {}

theorem load_eq_bind (h : Uses conventions host asked file) : conventions.load host asked =
    (conventions.fileSettings host file).bind (·.override host.lookup?) := by
  rw [Conventions.load, uses_iff.mp h]
  cases file <;> rfl

theorem States.fileSettings_eq {stated : Stated} (h : States conventions host file stated) :
    conventions.fileSettings host file = .ok (stated.settings none none) := by
  cases h with
  | nothing => rfl
  | file hread hparse hvalid =>
    obtain ⟨members, hmembers, rfl⟩ := ofText_eq_ok hvalid
    obtain rfl := Option.some.inj (hparse.symm.trans hmembers)
    rw [Conventions.fileSettings, Conventions.ofFile, hread]
    dsimp only
    rw [hvalid]
    rfl

theorem fileSettings_congr {other : Host}
    (h : ∀ path, file = some path → other.readText path = host.readText path) :
    conventions.fileSettings other file = conventions.fileSettings host file := by
  cases file with
  | none => rfl
  | some path =>
    rw [Conventions.fileSettings, Conventions.ofFile, h path rfl]
    rfl

end File

section Override

variable {lookup : String → Option String}

theorem NamesDialect.override_eq (h : NamesDialect host dialect) (stated : Stated) :
    (stated.settings none none).override host.lookup? =
      .ok (stated.settings dialect (host.lookup? "DIPPER_QUERIES_DIR")) := by
  rw [override]
  cases h with
  | set hset hname =>
    rw [hset]
    dsimp only
    rw [Dialect.parse_eq, hname]
    cases host.lookup? "DIPPER_QUERIES_DIR" <;> rfl
  | unset hunset =>
    rw [hunset]
    cases host.lookup? "DIPPER_QUERIES_DIR" <;> rfl

theorem override_of_unknown {text : String} (hset : lookup "DIPPER_DIALECT" = some text)
    (hname : Dialect.spellings.lookup (Dialect.normalize text) = none) (settings : Settings) :
    settings.override lookup = .error (.unknownDialect (Dialect.normalize text)) := by
  rw [override, hset]
  dsimp only
  rw [Dialect.parse_eq, hname]
  rfl

theorem namesDialect_or_unknown (host : Host) : (∃ dialect, NamesDialect host dialect) ∨
    ∃ text, host.lookup? "DIPPER_DIALECT" = some text ∧
      Dialect.spellings.lookup (Dialect.normalize text) = none := by
  cases hset : host.lookup? "DIPPER_DIALECT" with
  | none => exact .inl ⟨none, .unset hset⟩
  | some text =>
    cases hname : Dialect.spellings.lookup (Dialect.normalize text) with
    | none => exact .inr ⟨text, rfl, hname⟩
    | some dialect => exact .inl ⟨some dialect, .set hset hname⟩

/-- The variables that take the place of what a file says. -/
def variableNames : List String := ["DIPPER_DIALECT", "DIPPER_QUERIES_DIR"]

theorem override_congr {other : String → Option String}
    (h : ∀ name ∈ variableNames, other name = lookup name) (settings : Settings) :
    settings.override other = settings.override lookup := by
  have hdialect := h "DIPPER_DIALECT" (by decide)
  have hdir := h "DIPPER_QUERIES_DIR" (by decide)
  rw [override, override, hdialect, hdir]

end Override

section Load

variable {result : Except Failure Settings}

theorem Loads.load_eq (h : Loads conventions host asked result) :
    conventions.load host asked = result := by
  cases h with
  | unreadable hfile hread =>
    rw [load_eq_bind hfile, Conventions.fileSettings, Conventions.ofFile, hread]
    rfl
  | invalid hfile hread hfault =>
    rw [load_eq_bind hfile, Conventions.fileSettings, Conventions.ofFile, hread]
    dsimp only
    rw [hfault]
    rfl
  | unknownDialect hfile hstated hset hname =>
    rw [load_eq_bind hfile, hstated.fileSettings_eq, Except.bind]
    exact override_of_unknown hset hname _
  | loaded hfile hstated hdialect =>
    rw [load_eq_bind hfile, hstated.fileSettings_eq, Except.bind]
    exact hdialect.override_eq _

theorem exists_loads_of_states {stated : Stated} (hfile : Uses conventions host asked file)
    (hstated : States conventions host file stated) :
    ∃ result, Loads conventions host asked result := by
  obtain ⟨dialect, hdialect⟩ | ⟨text, hset, hname⟩ := namesDialect_or_unknown host
  · exact ⟨_, .loaded hfile hstated hdialect⟩
  · exact ⟨_, .unknownDialect hfile hstated hset hname⟩

theorem exists_loads (conventions : Conventions) (host : Host) (asked : Option Path) :
    ∃ result, Loads conventions host asked result := by
  cases hlocate : conventions.locate host asked with
  | none => exact exists_loads_of_states (uses_iff.mpr hlocate) .nothing
  | some path =>
    have hfile : Uses conventions host asked (some path) := uses_iff.mpr hlocate
    cases hread : host.readText path with
    | error cause => exact ⟨_, .unreadable hfile hread⟩
    | ok text =>
      cases hvalid : ofText conventions.parse text with
      | error fault => exact ⟨_, .invalid hfile hread hvalid⟩
      | ok settings =>
        obtain ⟨members, hparse, -⟩ := ofText_eq_ok hvalid
        exact exists_loads_of_states hfile (.file hread hparse hvalid)

theorem load_eq_iff :
    conventions.load host asked = result ↔ Loads conventions host asked result := by
  constructor
  · rintro rfl
    obtain ⟨result, hresult⟩ := exists_loads conventions host asked
    rw [hresult.load_eq]
    exact hresult
  · exact Loads.load_eq

/-- Variables do not change the other two fields of what the file gives. -/
theorem load_eq_ok {settings : Settings} (hfile : Uses conventions host asked file)
    (h : conventions.load host asked = .ok settings) :
    ∃ before, conventions.fileSettings host file = .ok before ∧
      settings.codegen.runtimeCrate = before.codegen.runtimeCrate ∧
      settings.build.indexFile = before.build.indexFile := by
  cases load_eq_iff.mp h with
  | loaded hused hstated hdialect =>
    obtain rfl := (uses_iff.mp hused).symm.trans (uses_iff.mp hfile)
    exact ⟨_, hstated.fileSettings_eq, rfl, rfl⟩

end Load

/-- One file at most is used, and settings come from two variables, from that file and from the
defaults, in this order. On another host that uses a file of the same text, the two fields that no
variable names are the same, and the whole result is if the two variables are. -/
theorem load_precedence (conventions : Conventions) (host : Host) (asked : Option Path) :
    (∃! file, Uses conventions host asked file) ∧
    (∀ result, conventions.load host asked = result ↔ Loads conventions host asked result) ∧
    ∀ (other : Host) (otherAsked file : Option Path), Uses conventions host asked file →
      Uses conventions other otherAsked file →
      (∀ path, file = some path → other.readText path = host.readText path) →
        (∀ settings otherSettings, conventions.load host asked = .ok settings →
          conventions.load other otherAsked = .ok otherSettings →
            otherSettings.codegen.runtimeCrate = settings.codegen.runtimeCrate ∧
            otherSettings.build.indexFile = settings.build.indexFile) ∧
        ((∀ name ∈ variableNames, other.lookup? name = host.lookup? name) →
          conventions.load other otherAsked = conventions.load host asked) := by
  refine ⟨⟨_, uses_iff.mpr rfl, fun file hfile => (uses_iff.mp hfile).symm⟩,
    fun result => load_eq_iff, fun other otherAsked file hfile hother hread => ?_⟩
  -- All that the two hosts' files give, before either host's variables are looked at.
  have hsame : conventions.fileSettings other file = conventions.fileSettings host file :=
    fileSettings_congr hread
  constructor
  · intro settings otherSettings hload hotherLoad
    obtain ⟨before, hbefore, hcrate, hindex⟩ := load_eq_ok hfile hload
    obtain ⟨otherBefore, hotherBefore, hotherCrate, hotherIndex⟩ := load_eq_ok hother hotherLoad
    obtain rfl := Except.ok.inj (hotherBefore.symm.trans (hsame.trans hbefore))
    exact ⟨hotherCrate.trans hcrate.symm, hotherIndex.trans hindex.symm⟩
  · intro hvariables
    rw [load_eq_bind hother, load_eq_bind hfile, hsame]
    congr 1
    exact funext (override_congr hvariables)

def mysqlText : String := "[codegen]\ndialect = \"mysql\"\nruntime_crate = \"app\"\n"

/-- A host with settings in its working directory, and with other files. -/
def mysqlHost (others : List (Location × Entry)) (environment : List (String × String)) : Host where
  store := ⟨([utf8 "dipper.toml"], .file mysqlText.toByteArray) :: others⟩
  cwd := []
  environment

def plainHost : Host := mysqlHost [] [("DIPPER_DIALECT", " PG ")]

/-- A host with settings of its user, too. -/
def userHost : Host :=
  mysqlHost [([utf8 "u"], .dir), ([utf8 "u", utf8 "dipper"], .dir),
      ([utf8 "u", utf8 "dipper", utf8 "config.toml"],
        .file "[build]\nindex_file = \"all.rs\"\n".toByteArray)]
    [("XDG_CONFIG_HOME", "/u"), ("DIPPER_DIALECT", " PG ")]

theorem load_plainHost : load plainHost none = .ok ⟨⟨.postgres, "app"⟩, {}⟩ := by
  have hhere : Uses .standard plainHost none (some (.ofString "dipper.toml")) := by
    refine .here ?_
    decide +kernel
  have hread : plainHost.readText (.ofString "dipper.toml") = .ok mysqlText := by decide +kernel
  have hvalid : ofText Conventions.standard.parse mysqlText = .ok ⟨⟨.mysql, "app"⟩, {}⟩ := by
    decide +kernel
  rw [load, load_eq_bind hhere, Conventions.fileSettings, Conventions.ofFile, hread]
  dsimp only
  rw [hvalid]
  decide +kernel

theorem load_precedence_plainHost :
    Uses .standard plainHost none (some (.ofString "dipper.toml")) ∧
    Uses .standard userHost none (some (.ofString "dipper.toml")) ∧
    (userFile? userHost).map userHost.isFile = some true ∧
    userHost.readText (.ofString "dipper.toml") = plainHost.readText (.ofString "dipper.toml") ∧
    (∀ name ∈ variableNames, userHost.lookup? name = plainHost.lookup? name) ∧
    Loads .standard plainHost none (.ok ⟨⟨.postgres, "app"⟩, {}⟩) ∧
    load userHost none = .ok ⟨⟨.postgres, "app"⟩, {}⟩ ∧
    ∀ settings, load userHost none = .ok settings →
      settings.codegen.runtimeCrate = "app" ∧ settings.build.indexFile = "dipper_queries.rs" := by
  have hplain : Uses .standard plainHost none (some (.ofString "dipper.toml")) := by
    refine .here ?_
    decide +kernel
  have huser : Uses .standard userHost none (some (.ofString "dipper.toml")) := by
    refine .here ?_
    decide +kernel
  have hread : userHost.readText (.ofString "dipper.toml") =
      plainHost.readText (.ofString "dipper.toml") := by decide +kernel
  have hvariables : ∀ name ∈ variableNames, userHost.lookup? name = plainHost.lookup? name := by
    decide
  obtain ⟨-, hloads, hothers⟩ := load_precedence .standard plainHost none
  obtain ⟨hkept, hsame⟩ := hothers userHost none _ hplain huser fun _ hpath => by
    cases hpath
    exact hread
  exact ⟨hplain, huser, by decide +kernel, hread, hvariables, (hloads _).mp load_plainHost,
    (hsame hvariables).trans load_plainHost, fun settings hload => hkept _ _ load_plainHost hload⟩

end Settings
end TypedQuery

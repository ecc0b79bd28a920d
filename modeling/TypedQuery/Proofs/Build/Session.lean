import TypedQuery.Proofs.Build.Outcome
import TypedQuery.Proofs.Code.IndexReader

/-! One directory over many calls, of which any may fail. -/
namespace TypedQuery.Build

/-- A file system, and the code that the last call to get to a file of some name has given it. -/
structure Session where
  store : Store
  given : String → Option String

namespace Session

def start (store : Store) : Session := ⟨store, fun _ => none⟩

def call (settings : BuildSettings) (cwd : Location) (out : Path) (session : Session)
    (units : List GeneratedUnit) : Session where
  store := (write settings cwd out units session.store).2
  given name :=
    match (reachedBy cwd out units session.store).find? (·.fileName = name) with
    | some unit => some unit.source
    | none => session.given name

def run (settings : BuildSettings) (cwd : Location) (out : Path) (store : Store)
    (calls : List (List GeneratedUnit)) : Session :=
  calls.foldl (call settings cwd out) (start store)

/-- What the index includes, if there is one, are files in the directory, each with the code that
was last given for it. -/
def IndexHolds (settings : BuildSettings) (cwd : Location) (out : Path) (session : Session) :
    Prop :=
  ∀ content, session.store.readBytes cwd (indexPath settings out) = .ok content →
    ∃ text : String, content = text.toByteArray ∧ ∀ name ∈ Code.includedNames text,
      ∃ source : String, session.given name = some source ∧
        session.store.readBytes cwd (out.join (.ofString name)) = .ok source.toByteArray ∧
        ∃ dir, session.store.location? cwd out = some dir ∧
          session.store.get? (dir ++ [utf8 name]) = some (.file source.toByteArray)

/-- Every file that was given code holds it, and the index names only such files. -/
structure Sound (settings : BuildSettings) (cwd : Location) (out : Path) (before : Store)
    (session : Session) : Prop where
  grows : Store.Grows before session.store
  given : ∀ {name text}, session.given name = some text → ∃ unit : GeneratedUnit,
    unit.IsGenerated ∧ unit.fileName = name ∧
      before.Apart cwd (indexPath settings out) (unitPath out unit) ∧
      session.store.readBytes cwd (unitPath out unit) = .ok text.toByteArray
  index : ∀ {content}, session.store.fileAt? cwd (indexPath settings out) = some content →
    ∃ names, content = (Code.indexSource names).toByteArray ∧
      ∀ name ∈ names, ∃ text, session.given name = some text

variable {settings : BuildSettings} {cwd : Location} {out : Path} {units : List GeneratedUnit}
  {calls : List (List GeneratedUnit)} {store : Store} {session : Session}

section Step

theorem given_call_of_some {unit : GeneratedUnit} {name : String}
    (h : (reachedBy cwd out units session.store).find? (·.fileName = name) = some unit) :
    (session.call settings cwd out units).given name = some unit.source := by
  simp only [call, h]

theorem given_call_of_none {name : String}
    (h : (reachedBy cwd out units session.store).find? (·.fileName = name) = none) :
    (session.call settings cwd out units).given name = session.given name := by
  simp only [call, h]

theorem exists_given_call_of_mem {unit : GeneratedUnit}
    (h : unit ∈ reachedBy cwd out units session.store) :
    ∃ text, (session.call settings cwd out units).given unit.fileName = some text := by
  cases hfind : (reachedBy cwd out units session.store).find? (·.fileName = unit.fileName) with
  | none => simpa using List.find?_eq_none.mp hfind unit h
  | some found => exact ⟨found.source, given_call_of_some hfind⟩

theorem exists_given_call {name text : String} (h : session.given name = some text) :
    ∃ text, (session.call settings cwd out units).given name = some text := by
  cases hfind : (reachedBy cwd out units session.store).find? (·.fileName = name) with
  | none => exact ⟨text, (given_call_of_none hfind).trans h⟩
  | some found => exact ⟨found.source, given_call_of_some hfind⟩

variable (h : session.Sound settings cwd out store) (htree : store.IsTree)
  (hlinks : store.NoLinksIn cwd out) (hgenerated : ∀ unit ∈ units, unit.IsGenerated)
  (hindex : ∀ unit ∈ units, store.Apart cwd (indexPath settings out) (unitPath out unit))
include h htree hlinks hgenerated hindex

theorem Sound.fills : ∃ made, Store.MakesDirs cwd (out :: out.ancestors) session.store made ∧
    Store.Fills cwd (filledBy settings cwd out units session.store) made
      (session.call settings cwd out units).store :=
  write_fills hgenerated (h.grows.tree htree) (h.grows.noLinksIn hlinks)
    fun unit hunit => h.grows.apart (hindex unit hunit)

/-- Files that were given code before keep it unless they are given new code. -/
theorem Sound.given_call {name text : String}
    (hgiven : (session.call settings cwd out units).given name = some text) :
    ∃ unit : GeneratedUnit, unit.IsGenerated ∧ unit.fileName = name ∧
      store.Apart cwd (indexPath settings out) (unitPath out unit) ∧
      (session.call settings cwd out units).store.readBytes cwd (unitPath out unit) =
        .ok text.toByteArray := by
  obtain ⟨made, hmakes, hfills⟩ := h.fills htree hlinks hgenerated hindex
  have hreached := reachedBy_subset cwd out units session.store
  cases hfind : (reachedBy cwd out units session.store).find? (·.fileName = name) with
  | some unit =>
    rw [given_call_of_some hfind] at hgiven
    cases hgiven
    have hmem := List.mem_of_find?_eq_some hfind
    have hname : unit.fileName = name := by simpa using List.find?_some hfind
    have hfile : unitFile out unit ∈ filledBy settings cwd out units session.store :=
      List.mem_append_left _ (List.mem_map_of_mem hmem)
    exact ⟨unit, hgenerated unit (hreached hmem), hname, hindex unit (hreached hmem),
      hfills.filled _ hfile⟩
  | none =>
    rw [given_call_of_none hfind] at hgiven
    obtain ⟨unit, hunit, hname, hapart, hread⟩ := h.given hgiven
    refine ⟨unit, hunit, hname, hapart, hfills.readBytes_eq ?_ (hmakes.readBytes_eq hread)⟩
    intro file hfile
    rw [← hmakes.grows.apart_iff, ← h.grows.apart_iff]
    rcases mem_filledBy hfile with ⟨other, hother, rfl⟩ | rfl
    · have hne : other.fileName ≠ name := by simpa using List.find?_eq_none.mp hfind other hother
      have hother := hgenerated other (hreached hother)
      refine apart_unitPath hunit hother hlinks fun heq => hne ?_
      rw [← hname]
      exact ((hunit.fileName_inj hother).mpr heq).symm
    · exact hapart.symm

/-- The index is only written once all its files are. -/
theorem Sound.index_call {content : ByteArray} (hcontent :
    (session.call settings cwd out units).store.fileAt? cwd (indexPath settings out) =
      some content) :
    ∃ names, content = (Code.indexSource names).toByteArray ∧
      ∀ name ∈ names, ∃ text, (session.call settings cwd out units).given name = some text := by
  obtain ⟨made, hmakes, hfills⟩ := h.fills htree hlinks hgenerated hindex
  cases hresult : (write settings cwd out units session.store).1 with
  | ok summary =>
    have hall := (write_ok hgenerated (h.grows.tree htree) (h.grows.noLinksIn hlinks)
      (Prod.ext hresult rfl)).1
    rw [filledBy, hresult] at hfills
    have hread := hfills.filled _ (List.mem_append_right _ (List.mem_singleton_self _))
    have hindexed := Option.some.inj (hcontent.symm.trans (Store.fileAt?_of_readBytes hread))
    refine ⟨(byTypeName units).map GeneratedUnit.fileName, hindexed, ?_⟩
    intro name hname
    obtain ⟨unit, hunit, rfl⟩ := List.mem_map.mp hname
    rw [← hall] at hunit
    exact exists_given_call_of_mem hunit
  | error failure =>
    rw [filledBy, hresult, List.append_nil] at hfills
    have hapart : ∀ file ∈ (reachedBy cwd out units session.store).map (unitFile out),
        made.Apart cwd (indexPath settings out) file.path := by
      intro file hfile
      obtain ⟨unit, hunit, rfl⟩ := List.mem_map.mp hfile
      rw [← hmakes.grows.apart_iff, ← h.grows.apart_iff]
      exact hindex unit (reachedBy_subset cwd out units session.store hunit)
    rw [hfills.fileAt?_eq hapart, hmakes.fileAt?_eq] at hcontent
    obtain ⟨names, hcontent, hnames⟩ := h.index hcontent
    refine ⟨names, hcontent, fun name hname => ?_⟩
    obtain ⟨text, htext⟩ := hnames name hname
    exact exists_given_call htext

/-- A call, whatever it comes to, leaves the directory sound. -/
theorem Sound.call : (session.call settings cwd out units).Sound settings cwd out store where
  grows := by
    obtain ⟨made, hmakes, hfills⟩ := h.fills htree hlinks hgenerated hindex
    exact h.grows.trans (hmakes.grows.trans hfills.grows)
  given := h.given_call htree hlinks hgenerated hindex
  index := h.index_call htree hlinks hgenerated hindex

end Step

theorem sound_start (hfresh : store.fileAt? cwd (indexPath settings out) = none) :
    (start store).Sound settings cwd out store where
  grows := .refl store
  given := nofun
  index h := by
    have hnone : some _ = none := h.symm.trans hfresh
    cases hnone

/-- Calls leave the directory sound, one after the other. -/
theorem sound_run (hgenerated : ∀ units ∈ calls, ∀ unit ∈ units, unit.IsGenerated)
    (htree : store.IsTree) (hlinks : store.NoLinksIn cwd out)
    (hindex : ∀ units ∈ calls, ∀ unit ∈ units,
      store.Apart cwd (indexPath settings out) (unitPath out unit))
    (hfresh : store.fileAt? cwd (indexPath settings out) = none) :
    (run settings cwd out store calls).Sound settings cwd out store := by
  have hsteps : ∀ session : Session, session.Sound settings cwd out store →
      (calls.foldl (call settings cwd out) session).Sound settings cwd out store := by
    induction calls with
    | nil => exact fun session h => h
    | cons units calls ih =>
      obtain ⟨hunits, hgenerated⟩ := List.forall_mem_cons.mp hgenerated
      obtain ⟨hfirst, hindex⟩ := List.forall_mem_cons.mp hindex
      intro session h
      exact ih hgenerated hindex _ (h.call htree hlinks hunits hfirst)
  exact hsteps _ (sound_start hfresh)

theorem Sound.indexHolds (h : session.Sound settings cwd out store)
    (hlinks : store.NoLinksIn cwd out) : session.IndexHolds settings cwd out := by
  intro content hread
  obtain ⟨names, rfl, hnames⟩ := h.index (Store.fileAt?_of_readBytes hread)
  refine ⟨Code.indexSource names, rfl, ?_⟩
  have hchars : ∀ name ∈ names, ∀ c ∈ name.toList, Code.isFileChar c := by
    intro name hname c hc
    obtain ⟨text, htext⟩ := hnames name hname
    obtain ⟨unit, hunit, rfl, _⟩ := h.given htext
    exact hunit.isFileChar_of_mem hc
  rw [Code.includedNames_indexSource hchars]
  intro name hname
  obtain ⟨text, htext⟩ := hnames name hname
  obtain ⟨unit, hunit, rfl, _, hread⟩ := h.given htext
  obtain ⟨loc, hleads, hfile⟩ := Store.readBytes_eq_ok hread
  obtain ⟨dir, hdir⟩ := Store.exists_location?_of_join hunit.isPlainName hleads.location?_eq
  have hloc := Store.location?_join hunit.isPlainName hdir fun target =>
    h.grows.noLinksIn hlinks dir _ target hdir
  obtain rfl : loc = dir ++ [utf8 unit.fileName] :=
    Option.some.inj (hleads.location?_eq.symm.trans hloc)
  exact ⟨text, htext, hread, dir, hdir, Store.content?_eq_some_iff.mp hfile⟩

end Session

/-- However many calls are made and wherever they fail, the index names only files that are there,
each with the code that the last call to get to it had for it. A call that fails at a unit has
written those before it, and the others and the index are as they were. -/
theorem run_indexHolds (settings : BuildSettings) (cwd : Location) (out : Path) (store : Store)
    (calls : List (List GeneratedUnit))
    (hgenerated : ∀ units ∈ calls, ∀ unit ∈ units, unit.IsGenerated)
    (htree : store.IsTree) (hlinks : store.NoLinksIn cwd out)
    (hindex : ∀ units ∈ calls, ∀ unit ∈ units,
      store.Apart cwd (indexPath settings out) (unitPath out unit))
    (hfresh : store.fileAt? cwd (indexPath settings out) = none) :
    (∀ done later, calls = done ++ later →
      (Session.run settings cwd out store done).IndexHolds settings cwd out) ∧
    ∀ done units later, calls = done ++ units :: later →
      ∀ before, before = (Session.run settings cwd out store done).store →
        ∀ unit ∈ units, ∀ cause,
          (write settings cwd out units before).1 = .error (.io (unitPath out unit) cause) →
          StoppedAt settings cwd out units unit before (write settings cwd out units before).2 := by
  have hsound : ∀ done later, calls = done ++ later →
      (Session.run settings cwd out store done).Sound settings cwd out store := by
    rintro done later rfl
    exact Session.sound_run (fun units hunits => hgenerated units (List.mem_append_left _ hunits))
      htree hlinks (fun units hunits => hindex units (List.mem_append_left _ hunits)) hfresh
  refine ⟨fun done later hcalls => (hsound done later hcalls).indexHolds hlinks, ?_⟩
  rintro done units later hcalls before rfl unit hunit cause hfailed
  have hgrows := (hsound done _ hcalls).grows
  have hmem : units ∈ calls := by
    rw [hcalls]
    exact List.mem_append_right _ List.mem_cons_self
  exact write_stoppedAt (hgenerated units hmem) (hgrows.tree htree) (hgrows.noLinksIn hlinks)
    (fun other hother => hgrows.apart (hindex units hmem other hother)) hunit hfailed

/-- A directory in which there is another one where a file of a unit should be. -/
def blockedStore : Store :=
  (Store.empty.set [utf8 "out"] .dir).set [utf8 "out", utf8 "aQuery1Query.g.rs"] .dir

theorem grows_blockedStore : Store.Grows .empty blockedStore := by
  have hfirst : Store.Grows .empty (Store.empty.set [utf8 "out"] .dir) :=
    Store.grows_set (Store.get?_nil .empty) nofun (.inl (by decide +kernel))
  have hdir : (Store.empty.set [utf8 "out"] .dir).get? [utf8 "out"] = some .dir :=
    Store.get?_set_same .empty (List.cons_ne_nil _ _) .dir
  exact hfirst.trans (Store.grows_set hdir nofun (.inl (by decide +kernel)))

/-- The first unit is written, the second is not. -/
theorem write_blockedStore : ∃ unit ∈ prefixUnits,
    (write {} [] (.ofString "out") prefixUnits blockedStore).1 =
      .error (.io (unitPath (.ofString "out") unit) .isADirectory) := by
  obtain ⟨first, second, hunits⟩ : ∃ first second, prefixUnits = [first, second] := ⟨_, _, rfl⟩
  have hnames := prefixUnits_fileName
  rw [hunits] at hnames
  have hfirst : first.fileName = "aQuery.g.rs" := (List.cons.inj hnames).1
  have hsecond : second.fileName = "aQuery1Query.g.rs" :=
    (List.cons.inj (List.cons.inj hnames).2).1
  have hmem : second ∈ prefixUnits := hunits ▸ List.mem_cons_of_mem first List.mem_cons_self
  have hmade : (blockedStore.makeDirs [] (.ofString "out")).1 = .ok () := by decide +kernel
  refine ⟨second, hmem, ?_⟩
  refine write_of_isDir (duplicate?_nil_eq_none_iff.mpr prefixUnits_nodup)
    (grows_blockedStore.tree Store.isTree_empty) (Prod.ext hmade rfl)
    (byTypeName_prefixUnits.trans hunits : _ = [first] ++ second :: []) ?_
    (prefixUnits_isGenerated second hmem) ?_
  · intro earlier hearlier
    rw [List.mem_singleton.mp hearlier, unitPath, hfirst]
    decide +kernel
  · rw [unitPath, hsecond]
    decide +kernel

theorem run_indexHolds_prefixUnits :
    (∃ content, (Session.run {} [] (.ofString "out") .empty [prefixUnits]).store.readBytes []
        (indexPath {} (.ofString "out")) = .ok content) ∧
    (Session.run {} [] (.ofString "out") .empty [prefixUnits]).IndexHolds {} [] (.ofString "out") ∧
    ∃ unit ∈ prefixUnits, StoppedAt {} [] (.ofString "out") prefixUnits unit blockedStore
      (write {} [] (.ofString "out") prefixUnits blockedStore).2 := by
  have hempty : Store.empty.NoLinksIn [] (.ofString "out") := Store.linkFree_empty.noLinksIn
  have hblocked : blockedStore.NoLinksIn [] (.ofString "out") :=
    (grows_blockedStore.linkFree Store.linkFree_empty).noLinksIn
  have hcalls : ∀ units ∈ [prefixUnits], ∀ unit ∈ units, unit.IsGenerated := by
    intro units hunits
    rw [List.mem_singleton.mp hunits]
    exact prefixUnits_isGenerated
  have hapart : ∀ store : Store, store.NoLinksIn [] (.ofString "out") → ∀ units ∈ [prefixUnits],
      ∀ unit ∈ units, store.Apart [] (indexPath {} (.ofString "out"))
        (unitPath (.ofString "out") unit) := by
    intro store hlinks units hunits
    rw [List.mem_singleton.mp hunits]
    exact prefixUnits_apart hlinks
  have hholds := (run_indexHolds {} [] (.ofString "out") .empty [prefixUnits] hcalls
    Store.isTree_empty hempty (hapart _ hempty) (by decide +kernel)).1 [prefixUnits] [] rfl
  have hstopped := (run_indexHolds {} [] (.ofString "out") blockedStore [prefixUnits] hcalls
    (grows_blockedStore.tree Store.isTree_empty) hblocked (hapart _ hblocked) (by decide +kernel)).2
      [] prefixUnits [] rfl blockedStore rfl
  refine ⟨?_, hholds, ?_⟩
  · obtain ⟨summary, after, h⟩ := write_prefixUnits
    have hfills : ∃ made, Store.MakesDirs [] _ .empty made ∧
        Store.Fills [] (filledBy {} [] (.ofString "out") prefixUnits .empty) made
          (write {} [] (.ofString "out") prefixUnits .empty).2 :=
      write_fills prefixUnits_isGenerated Store.isTree_empty hempty (prefixUnits_apart hempty)
    obtain ⟨made, _, hfills⟩ := hfills
    rw [filledBy, h] at hfills
    have hread := hfills.filled _ (List.mem_append_right _ (List.mem_singleton_self _))
    refine ⟨_, (congrArg (fun store : Store => store.readBytes [] _) ?_).trans hread⟩
    exact congrArg Prod.snd h
  · obtain ⟨unit, hmem, hblocked⟩ := write_blockedStore
    exact ⟨unit, hmem, hstopped unit hmem .isADirectory hblocked⟩

end TypedQuery.Build

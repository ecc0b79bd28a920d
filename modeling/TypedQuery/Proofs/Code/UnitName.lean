import TypedQuery.Code.Unit
import TypedQuery.Proofs.Text.Utf8
import TypedQuery.Proofs.Path.Step
import Mathlib.Data.List.Nodup

/-! The names of units: those of their files stand in the same order as those of their types, and
each is one step of a path. -/
namespace TypedQuery

namespace Code

/-- A letter, a digit or an underscore. -/
def isNameChar (c : Char) : Bool := Text.isAlphanumeric c || c = '_'

/-- A character of the name of a unit's file. -/
def isFileChar (c : Char) : Bool := isNameChar c || c = '.'

theorem digit_le_of_isNameChar {c : Char} (h : isNameChar c) : '0' ≤ c := by
  rw [isNameChar, Bool.or_eq_true, decide_eq_true_eq] at h
  rcases h with h | rfl
  · by_contra hlt
    have hcode : c.toNat < 0x30 := Nat.lt_of_not_le hlt
    have hfalse : Text.isAlphanumeric c = false := Text.covers_eq_false_of_lt _ hcode
    rw [h] at hfalse
    cases hfalse
  · decide

theorem isNameChar_of_mem_typeStem {name : List Char} {c : Char} (h : c ∈ typeStem name) :
    isNameChar c := by
  have hkept : ∀ d ∈ name.map fun c => if Text.isAlphanumeric c || c = '_' then c else '_',
      isNameChar d := by
    intro d hd
    obtain ⟨b, _, rfl⟩ := List.mem_map.mp hd
    split
    · assumption
    · decide
  dsimp only [typeStem] at h
  split at h
  · rcases List.mem_cons.mp h with rfl | h
    · decide
    · exact hkept c h
  · exact hkept c h

theorem isNameChar_of_mem_typeName {query : String} {c : Char}
    (h : c ∈ (typeName query).toList) : isNameChar c := by
  rw [typeName, typeIdent, String.toList_append, String.toList_ofList] at h
  rcases List.mem_append.mp h with h | h
  · exact isNameChar_of_mem_typeStem h
  · have hall : "Query".toList.all isNameChar := by decide
    exact List.all_eq_true.mp hall c h

/-- What follows two names in common does not change their order if it comes before every
character of a name. -/
theorem append_lt_append {a b rest : List Char} {c : Char} (h : a < b) (hb : ∀ d ∈ b, c < d) :
    a ++ c :: rest < b ++ c :: rest := by
  induction a generalizing b with
  | nil =>
    cases b with
    | nil => exact absurd h (List.lt_irrefl [])
    | cons d b => exact List.cons_lt_cons_iff.mpr (.inl (hb d List.mem_cons_self))
  | cons e a ih =>
    cases b with
    | nil => exact absurd h (List.not_lt_nil _)
    | cons d b =>
      rcases List.cons_lt_cons_iff.mp h with hlt | ⟨rfl, htail⟩
      · exact List.cons_lt_cons_iff.mpr (.inl hlt)
      · have htail := ih htail fun d hd => hb d (List.mem_cons_of_mem _ hd)
        exact List.cons_lt_cons_iff.mpr (.inr ⟨rfl, htail⟩)

end Code

namespace GeneratedUnit

/-- The unit comes from a query file. -/
def IsGenerated (unit : GeneratedUnit) : Prop := ∃ source settings, unit = .ofSource source settings

/-- The names of the types that a unit declares. -/
def itemNames (unit : GeneratedUnit) : List String := [unit.typeName, unit.typeName ++ "Input"]

/-- A line of the unit's code declares a type of this name. -/
def Declares (unit : GeneratedUnit) (name : String) : Prop :=
  ∃ lines, unit.source = Code.ofLines lines ∧
    ∃ ending ∈ [";", " \x7b", " \x7b\x7d"], "pub struct " ++ name ++ ending ∈ lines

theorem exists_declaration {metadata : QueryMetadata} {settings : CodegenSettings} {name : String}
    (h : name ∈ (ofMetadata metadata settings).itemNames) :
    ∃ ending ∈ [";", " \x7b", " \x7b\x7d"],
      "pub struct " ++ name ++ ending ∈ Code.unitLines metadata settings := by
  have hinput : ∀ line ∈ Code.inputLines metadata.queryName metadata.parameters,
      line ∈ Code.unitLines metadata settings := by
    intro line hline
    simp [Code.unitLines, Code.headLines, hline]
  rcases List.mem_pair.mp h with rfl | rfl
  · refine ⟨";", by simp, ?_⟩
    have hline : "pub struct " ++ Code.typeName metadata.queryName ++ ";" ∈
        Code.headLines metadata := by simp [Code.headLines, toString]
    exact List.mem_append_left _ (List.mem_append_left _ (List.mem_append_left _ hline))
  · by_cases hparams : metadata.parameters = []
    · refine ⟨" \x7b\x7d", by simp, hinput _ ?_⟩
      rw [Code.inputLines, if_pos hparams]
      exact List.mem_append_right _ List.mem_cons_self
    · refine ⟨" \x7b", by simp, hinput _ ?_⟩
      rw [Code.inputLines, if_neg hparams]
      exact List.mem_append_right _ (by simp [ofMetadata, Code.inputName, toString])

namespace IsGenerated

variable {unit a b : GeneratedUnit}

theorem exists_typeName (h : unit.IsGenerated) : ∃ query, unit.typeName = Code.typeName query := by
  obtain ⟨source, settings, rfl⟩ := h
  exact ⟨_, rfl⟩

theorem declares (h : unit.IsGenerated) {name : String} (hname : name ∈ unit.itemNames) :
    unit.Declares name := by
  obtain ⟨source, settings, rfl⟩ := h
  have hline := @exists_declaration (.ofSource source) settings name hname
  generalize hlines : Code.unitLines (.ofSource source) settings = lines at hline
  refine ⟨lines, ?_, hline⟩
  rw [← hlines, ofSource, ofMetadata]

theorem fileName_eq (h : unit.IsGenerated) : unit.fileName = unit.typeName ++ ".g.rs" := by
  obtain ⟨source, settings, rfl⟩ := h
  rfl

theorem isFileChar_of_mem (h : unit.IsGenerated) {c : Char} (hc : c ∈ unit.fileName.toList) :
    Code.isFileChar c := by
  obtain ⟨query, hquery⟩ := h.exists_typeName
  rw [h.fileName_eq, hquery, String.toList_append] at hc
  rcases List.mem_append.mp hc with hc | hc
  · rw [Code.isFileChar, Code.isNameChar_of_mem_typeName hc, Bool.true_or]
  · have hall : ".g.rs".toList.all Code.isFileChar := by decide
    exact List.all_eq_true.mp hall c hc

theorem fileName_inj (ha : a.IsGenerated) (hb : b.IsGenerated) :
    a.fileName = b.fileName ↔ a.typeName = b.typeName := by
  rw [ha.fileName_eq, hb.fileName_eq, ← String.toList_inj, String.toList_append,
    String.toList_append, List.append_left_inj, String.toList_inj]

theorem fileName_lt (ha : a.IsGenerated) (hb : b.IsGenerated) (h : a.typeName < b.typeName) :
    a.fileName < b.fileName := by
  obtain ⟨query, hquery⟩ := hb.exists_typeName
  rw [ha.fileName_eq, hb.fileName_eq, String.lt_iff, String.toList_append, String.toList_append]
  apply Code.append_lt_append (String.lt_iff.mp h)
  intro d hd
  rw [hquery] at hd
  have hdigit := Code.digit_le_of_isNameChar (Code.isNameChar_of_mem_typeName hd)
  exact Nat.lt_of_lt_of_le (by decide) hdigit

/-- The file of a unit lies in the directory itself. -/
theorem isPlainName (h : unit.IsGenerated) : IsPlainName (utf8 unit.fileName) := by
  have hbytes : utf8 unit.fileName = utf8 unit.typeName ++ utf8 ".g.rs" := by
    rw [h.fileName_eq, utf8_append]
  have hsuffix : utf8 ".g.rs" = [0x2e, 0x67, 0x2e, 0x72, 0x73] := by decide +kernel
  have hlength : 5 ≤ (utf8 unit.fileName).length := by
    rw [hbytes, hsuffix, List.length_append]
    simp only [List.length_cons, List.length_nil]
    omega
  refine ⟨?_, ?_, ?_, ?_⟩
  · intro hnil
    rw [hnil] at hlength
    cases hlength
  · intro hslash
    rw [hbytes] at hslash
    rcases List.mem_append.mp hslash with hslash | hslash
    · obtain ⟨query, hquery⟩ := h.exists_typeName
      obtain ⟨c, hc, hcode⟩ := exists_mem_of_mem_utf8 (by decide) hslash
      rw [hquery] at hc
      have hdigit := Code.digit_le_of_isNameChar (Code.isNameChar_of_mem_typeName hc)
      have hcode' : 0x30 ≤ c.toNat := hdigit
      have hvalue : c.toNat = 0x2f := hcode
      omega
    · rw [hsuffix] at hslash
      revert hslash
      decide
  · intro hdot
    rw [hdot] at hlength
    simp only [List.length_cons, List.length_nil] at hlength
    omega
  · intro hdots
    rw [hdots] at hlength
    simp only [List.length_cons, List.length_nil] at hlength
    omega

theorem typeName_ne_inputName (ha : a.IsGenerated) : a.typeName ≠ b.typeName ++ "Input" := by
  obtain ⟨query, hquery⟩ := ha.exists_typeName
  intro heq
  rw [hquery, Code.typeName] at heq
  have hlast := congrArg (fun name => name.toList.getLast?) heq
  simp only [String.toList_append, List.getLast?_append] at hlast
  have hquery : "Query".toList.getLast? = some 'y' := by decide
  have hinput : "Input".toList.getLast? = some 't' := by decide
  rw [hquery, hinput, Option.some_or, Option.some_or] at hlast
  cases hlast

end IsGenerated

variable {units : List GeneratedUnit}

/-- Units with different types have files of their own. -/
theorem nodup_fileName (hgenerated : ∀ unit ∈ units, unit.IsGenerated)
    (hdistinct : (units.map (·.typeName)).Nodup) : (units.map (·.fileName)).Nodup := by
  rw [List.Nodup, List.pairwise_map] at hdistinct ⊢
  refine hdistinct.imp_of_mem ?_
  intro a b ha hb hne heq
  exact hne (((hgenerated a ha).fileName_inj (hgenerated b hb)).mp heq)

/-- Units with different types declare no name twice. -/
theorem nodup_itemNames (hgenerated : ∀ unit ∈ units, unit.IsGenerated)
    (hdistinct : (units.map (·.typeName)).Nodup) : (units.flatMap itemNames).Nodup := by
  have hpairwise : units.Pairwise fun a b => a.typeName ≠ b.typeName :=
    List.pairwise_map.mp hdistinct
  rw [List.nodup_flatMap]
  refine ⟨?_, hpairwise.imp_of_mem ?_⟩
  · intro unit hunit
    have hne := (hgenerated unit hunit).typeName_ne_inputName (b := unit)
    simp only [itemNames, List.nodup_cons, List.mem_singleton, List.not_mem_nil, not_false_eq_true,
      List.nodup_nil, and_true]
    exact hne
  · intro a b ha hb hne
    have hab := (hgenerated a ha).typeName_ne_inputName (b := b)
    have hba := (hgenerated b hb).typeName_ne_inputName (b := a)
    have hinput : a.typeName ++ "Input" ≠ b.typeName ++ "Input" := by
      rw [ne_eq, ← String.toList_inj, String.toList_append, String.toList_append,
        List.append_left_inj, String.toList_inj]
      exact hne
    intro name hname hname'
    simp only [itemNames, List.mem_cons, List.not_mem_nil, or_false] at hname hname'
    rcases hname with rfl | rfl
    · rcases hname' with h | h
      · exact hne h
      · exact hab h
    · rcases hname' with h | h
      · exact hba h.symm
      · exact hinput h

end GeneratedUnit
end TypedQuery

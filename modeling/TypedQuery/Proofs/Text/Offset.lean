import TypedQuery.Proofs.Text.Utf8

/-! Byte offsets into a text, and the places between characters. -/
namespace TypedQuery.Text

open String (utf8EncodeChar)

/-- The bytes of a text. -/
def bytes (text : List Char) : List UInt8 := text.flatMap utf8EncodeChar

/-- What stands before and behind an offset. There is nothing if a character is on both sides or if
the text is shorter. -/
def cut? : List Char → Nat → Option (List Char × List Char)
  | text, 0 => some ([], text)
  | [], _ + 1 => none
  | c :: text, offset + 1 =>
    if c.utf8Size ≤ offset + 1 then
      (cut? text (offset + 1 - c.utf8Size)).map fun (front, rest) => (c :: front, rest)
    else none

/-- The text from one offset to another, if both are between characters and in this order. -/
def slice? (text : List Char) (start stop : Nat) : Option (List Char) := do
  let (front, _) ← cut? text stop
  let (_, piece) ← cut? front start
  return piece

/-- No character has bytes on both sides of the offset, and the text reaches as far. -/
def IsBoundary (text : List Char) (offset : Nat) : Prop :=
  ∃ front rest, text = front ++ rest ∧ offset = (bytes front).length

/-- The offset of the first place where the pattern stands. -/
def search? (pattern : List Char) : List Char → Option Nat
  | [] => none
  | c :: text =>
    if pattern <+: c :: text then some 0 else (search? pattern text).map (· + c.utf8Size)

variable {text front piece rest a b : List Char} {c : Char} {offset start stop : Nat} {byte : UInt8}

@[simp] theorem bytes_nil : bytes [] = [] := rfl

theorem bytes_cons (c : Char) (text : List Char) :
    bytes (c :: text) = utf8EncodeChar c ++ bytes text := List.flatMap_cons

@[simp] theorem bytes_append (a b : List Char) : bytes (a ++ b) = bytes a ++ bytes b :=
  List.flatMap_append

theorem length_bytes_cons (c : Char) (text : List Char) :
    (bytes (c :: text)).length = c.utf8Size + (bytes text).length := by
  rw [bytes_cons, List.length_append, String.length_utf8EncodeChar]

theorem bytes_eq_nil_iff : bytes text = [] ↔ text = [] := by
  cases text with
  | nil => simp
  | cons c text => simp [bytes_cons, String.utf8EncodeChar_ne_nil]

theorem cut?_append (a b : List Char) : cut? (a ++ b) (bytes a).length = some (a, b) := by
  induction a with
  | nil => cases b <;> rfl
  | cons c a ih =>
    have hpos := c.utf8Size_pos
    obtain ⟨n, hn⟩ : ∃ n, (bytes (c :: a)).length = n + 1 :=
      Nat.exists_eq_add_one.mpr (by rw [length_bytes_cons]; omega)
    rw [length_bytes_cons] at hn
    rw [length_bytes_cons, hn, List.cons_append, cut?, if_pos (by omega), ← hn,
      Nat.add_sub_cancel_left, ih]
    rfl

theorem cut?_eq_some (h : cut? text offset = some (front, rest)) :
    text = front ++ rest ∧ offset = (bytes front).length := by
  fun_induction cut? text offset generalizing front with
  | case1 text =>
    obtain ⟨rfl, rfl⟩ := Prod.mk.inj (Option.some.inj h)
    exact ⟨rfl, rfl⟩
  | case2 => cases h
  | case3 c text offset hle ih =>
    obtain ⟨⟨tail, after⟩, hcut, hpair⟩ := Option.map_eq_some_iff.mp h
    obtain ⟨rfl, rfl⟩ := Prod.mk.inj hpair
    obtain ⟨rfl, hoffset⟩ := ih hcut
    refine ⟨rfl, ?_⟩
    rw [length_bytes_cons]
    omega
  | case4 => cases h

/-- A slice is there exactly if both offsets are between characters and in this order. -/
theorem slice?_eq_some_iff : slice? text start stop = some piece ↔
    ∃ front rest, text = front ++ (piece ++ rest) ∧ start = (bytes front).length ∧
      stop = (bytes (front ++ piece)).length := by
  unfold slice?
  constructor
  · intro h
    obtain ⟨⟨before, rest⟩, hstop, h⟩ := Option.bind_eq_some_iff.mp h
    obtain ⟨⟨front, found⟩, hstart, h⟩ := Option.bind_eq_some_iff.mp h
    obtain rfl : found = piece := Option.some.inj h
    obtain ⟨rfl, rfl⟩ := cut?_eq_some hstop
    obtain ⟨rfl, rfl⟩ := cut?_eq_some hstart
    exact ⟨front, rest, List.append_assoc _ _ _, rfl, rfl⟩
  · rintro ⟨front, rest, rfl, rfl, rfl⟩
    rw [← List.append_assoc, cut?_append]
    simp only [Option.bind_eq_bind, Option.bind_some, cut?_append]
    rfl

theorem length_bytes_toList (text : String) : (bytes text.toList).length = text.utf8ByteSize := by
  have hbytes : utf8 text = bytes text.toList := utf8_eq_flatMap text
  rw [← hbytes]
  rfl

/-- An offset between characters is one in the sense of strings. -/
theorem IsBoundary.isValid {text : String} (h : IsBoundary text.toList offset) :
    String.Pos.Raw.IsValid text ⟨offset⟩ := by
  obtain ⟨front, rest, htext, rfl⟩ := h
  rw [String.Pos.Raw.isValid_iff_exists_take_toList]
  refine ⟨front.length, ?_⟩
  rw [htext, List.take_left, ← length_bytes_toList, String.toList_ofList]

theorem utf8Size_of_toNat_lt (h : c.toNat < 128) : c.utf8Size = 1 := by
  rw [Char.utf8Size_eq_one_iff, UInt32.le_iff_toNat_le]
  exact Nat.le_of_lt_succ h

/-- A byte below 128 at the front is the first character. -/
theorem head?_of_bytes (hc : c.toNat < 128) (h : (bytes text)[0]? = some c.val.toUInt8) :
    text.head? = some c := by
  have hbyte : c.val.toUInt8.toNat = c.toNat := by
    rw [UInt32.toNat_toUInt8]
    exact Nat.mod_eq_of_lt (Nat.lt_trans hc (by decide))
  cases text with
  | nil => cases h
  | cons d rest =>
    have hmem : c.val.toUInt8 ∈ utf8EncodeChar d := by
      rw [← List.head?_eq_getElem?, bytes_cons,
        List.head?_append_of_ne_nil _ String.utf8EncodeChar_ne_nil] at h
      exact List.mem_of_head? h
    have hlt : c.val.toUInt8 < 128 := UInt8.lt_iff_toNat_lt.mpr (hbyte ▸ hc)
    have hnat : d.toNat = c.toNat := (toNat_eq_of_mem_utf8EncodeChar hlt hmem).trans hbyte
    rw [List.head?_cons, Char.ext (UInt32.toNat_inj.mp hnat)]

/-- All bytes behind the first one of a character are above 127. -/
theorem le_of_mem_tail_utf8EncodeChar (h : byte ∈ (utf8EncodeChar c).tail) : 128 ≤ byte := by
  rw [← UInt8.not_lt]
  intro hbyte
  have hc := toNat_eq_of_mem_utf8EncodeChar hbyte (List.mem_of_mem_tail h)
  have hsingle : c.toNat < 128 := hc ▸ hbyte
  rw [String.utf8EncodeChar_eq_singleton (utf8Size_of_toNat_lt hsingle)] at h
  cases h

end TypedQuery.Text

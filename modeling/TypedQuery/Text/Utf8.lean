/-! UTF-8 that may hold mistakes. -/
namespace TypedQuery.Text

/-- What a first byte above ASCII asks for: how many bytes follow, and the bounds of the next one. -/
def leadByte (b : UInt8) : Option (Nat × UInt8 × UInt8) :=
  if 0xc2 ≤ b ∧ b ≤ 0xdf then some (1, 0x80, 0xbf)
  else if b = 0xe0 then some (2, 0xa0, 0xbf)
  else if b = 0xed then some (2, 0x80, 0x9f)
  else if 0xe1 ≤ b ∧ b ≤ 0xef then some (2, 0x80, 0xbf)
  else if b = 0xf0 then some (3, 0x90, 0xbf)
  else if 0xf1 ≤ b ∧ b ≤ 0xf3 then some (3, 0x80, 0xbf)
  else if b = 0xf4 then some (3, 0x80, 0x8f)
  else none

/-- At most `n` bytes that continue a character, the first of them within the bounds, and the rest. -/
def tailBytes : Nat → UInt8 → UInt8 → List UInt8 → List UInt8 × List UInt8
  | n + 1, lo, hi, b :: rest =>
    if lo ≤ b ∧ b ≤ hi then
      (b :: (tailBytes n 0x80 0xbf rest).1, (tailBytes n 0x80 0xbf rest).2)
    else ([], b :: rest)
  | _, _, _, bytes => ([], bytes)

theorem tailBytes_length_le (n : Nat) (lo hi : UInt8) (bytes : List UInt8) :
    (tailBytes n lo hi bytes).2.length ≤ bytes.length := by
  fun_induction tailBytes n lo hi bytes with simp_all <;> omega

/-- The character with a first byte of which `low` bits count, and the bytes after it. -/
def assemble (first : UInt8) (low : Nat) (tail : List UInt8) : Char :=
  .ofNat (tail.foldl (fun n b => n * 64 + b.toNat % 64) (first.toNat % Nat.pow 2 low))

/-- The characters of a byte sequence. The longest start of a character that is not completed, or
else a single byte, is a mistake and stands for the replacement character. -/
def decodeLossy : List UInt8 → List Char
  | [] => []
  | b :: rest =>
    if b < 0x80 then .ofNat b.toNat :: decodeLossy rest
    else
      match leadByte b with
      | none => '\ufffd' :: decodeLossy rest
      | some (n, lo, hi) =>
        (if (tailBytes n lo hi rest).1.length = n then assemble b (6 - n) (tailBytes n lo hi rest).1
          else '\ufffd') :: decodeLossy (tailBytes n lo hi rest).2
termination_by bytes => bytes.length
decreasing_by
  · simp
  · simp
  · have := tailBytes_length_le n lo hi rest
    simp only [List.length_cons]
    omega

/-- The text of a byte sequence, with a replacement for each mistake. -/
def lossy (bytes : List UInt8) : String := .ofList (decodeLossy bytes)

end TypedQuery.Text

import TypedQuery.Proofs.Text.Span

/-! String literals of the emitted code as a compiler reads them. -/
namespace TypedQuery.Code

def hexDigit? (c : Char) : Option Nat :=
  if c.isDigit then some (c.toNat - '0'.toNat)
  else if 'a' ≤ c ∧ c ≤ 'f' then some (c.toNat - 'a'.toNat + 10)
  else if 'A' ≤ c ∧ c ≤ 'F' then some (c.toNat - 'A'.toNat + 10)
  else none

def hexNumber? (digits : List Char) : Option Nat :=
  digits.foldlM (fun n c => (hexDigit? c).map (16 * n + ·)) 0

/-- The character of a number in one to six digits. Underscores may stand behind the first digit. -/
def scalar? (digits : List Char) : Option Char :=
  let kept := digits.filter (· ≠ '_')
  if digits.head? = some '_' ∨ kept = [] ∨ 6 < kept.length then none
  else (hexNumber? kept).bind fun n => if n.isValidChar then some (.ofNat n) else none

/-- The character that an escape stands for, read behind its backslash, and what follows. -/
def readEscape : List Char → Option (Char × List Char)
  | 't' :: rest => some ('\t', rest)
  | 'r' :: rest => some ('\r', rest)
  | 'n' :: rest => some ('\n', rest)
  | '\\' :: rest => some ('\\', rest)
  | '\x22' :: rest => some ('\x22', rest)
  | '\x27' :: rest => some ('\x27', rest)
  | '0' :: rest => some ('\x00', rest)
  | 'u' :: '\x7b' :: rest =>
    match rest.dropWhile (· ≠ '\x7d') with
    | _ :: after => (scalar? (rest.takeWhile (· ≠ '\x7d'))).map (·, after)
    | [] => none
  | _ => none

theorem readEscape_length_lt {text rest : List Char} {c : Char}
    (h : readEscape text = some (c, rest)) : rest.length < text.length := by
  unfold readEscape at h
  split at h
  case h_8 tail =>
    split at h
    · next after heq =>
      obtain ⟨_, _, hpair⟩ := Option.map_eq_some_iff.mp h
      obtain ⟨_, rfl⟩ := Prod.mk.inj hpair
      have hle := (List.dropWhile_sublist (l := tail) (· ≠ '\x7d')).length_le
      rw [heq] at hle
      simp only [List.length_cons] at hle ⊢
      omega
    · cases h
  case h_9 => cases h
  all_goals
    obtain ⟨_, rfl⟩ := Prod.mk.inj (Option.some.inj h)
    simp

/-- Quoted text behind its first quote, up to the quote that closes it, and what follows. -/
def readQuoted : List Char → Option (List Char × List Char)
  | [] => none
  | c :: rest =>
    if c = '\x22' then some ([], rest)
    else if c = '\r' then none
    else if c = '\\' then
      match _h : readEscape rest with
      | some (escaped, after) => (readQuoted after).map fun (text, left) => (escaped :: text, left)
      | none => none
    else (readQuoted rest).map fun (text, left) => (c :: text, left)
termination_by text => text.length
decreasing_by
  · have := readEscape_length_lt _h
    simp only [List.length_cons]
    omega
  · simp

/-- Raw text behind its first quote, up to the first quote with as many hashes, and what follows. -/
def readRaw (hashes : Nat) : List Char → Option (List Char × List Char)
  | [] => none
  | c :: rest =>
    if c = '\x22' ∧ List.replicate hashes '#' <+: rest then some ([], rest.drop hashes)
    else if c = '\r' then none
    else (readRaw hashes rest).map fun (text, left) => (c :: text, left)

/-- The most hashes that a raw literal may have. -/
def maxHashes : Nat := 255

/-- The value of a literal and what follows it. -/
def readLiteral : List Char → Option (List Char × List Char)
  | '\x22' :: rest => readQuoted rest
  | 'r' :: rest =>
    match rest.dropWhile (· = '#') with
    | '\x22' :: body =>
      if (rest.takeWhile (· = '#')).length ≤ maxHashes then
        readRaw (rest.takeWhile (· = '#')).length body
      else none
    | _ => none
  | _ => none

end TypedQuery.Code

import TypedQuery.Code.Literal
import TypedQuery.Proofs.Code.LiteralReader

/-! What a literal stands for, read back, is the text it was made from. -/
namespace TypedQuery.Code

open Text (Stops quoteCharWith quotedWith)

section Hexadecimal

theorem hexDigit?_digitChar : ∀ n < 16, hexDigit? n.digitChar = some n := by decide

theorem hexNumber?_append {digits : List Char} {n d : Nat} {c : Char}
    (hn : hexNumber? digits = some n) (hd : hexDigit? c = some d) :
    hexNumber? (digits ++ [c]) = some (16 * n + d) := by
  rw [hexNumber?, List.foldlM_append]
  change (hexNumber? digits).bind _ = _
  simp [hn, hd]

theorem hexNumber?_toDigits (n : Nat) : hexNumber? (Nat.toDigits 16 n) = some n := by
  induction n using Nat.strong_induction_on with
  | _ n ih =>
    by_cases hn : n < 16
    · rw [Nat.toDigits_of_lt_base hn]
      simp [hexNumber?, hexDigit?_digitChar n hn]
    · have hdigit := hexDigit?_digitChar (n % 16) (Nat.mod_lt n (by decide))
      rw [Nat.toDigits_of_base_le (by decide) (by omega),
        hexNumber?_append (ih (n / 16) (by omega)) hdigit]
      congr 1
      omega

theorem hexDigit?_of_mem_toDigits {n : Nat} {c : Char} (h : c ∈ Nat.toDigits 16 n) :
    hexDigit? c ≠ none := by
  induction n using Nat.strong_induction_on with
  | _ n ih =>
    by_cases hn : n < 16
    · rw [Nat.toDigits_of_lt_base hn, List.mem_singleton] at h
      rw [h, hexDigit?_digitChar n hn]
      exact Option.some_ne_none n
    · rw [Nat.toDigits_of_base_le (by decide) (by omega), List.mem_append] at h
      rcases h with h | h
      · exact ih (n / 16) (by omega) h
      · rw [List.mem_singleton.mp h, hexDigit?_digitChar _ (Nat.mod_lt n (by decide))]
        exact Option.some_ne_none _

theorem scalar?_toDigits (c : Char) : scalar? (Nat.toDigits 16 c.toNat) = some c := by
  have hvalid : c.toNat.isValidChar := c.valid
  have hlength : (Nat.toDigits 16 c.toNat).length ≤ 6 := by
    rw [Nat.length_toDigits_le_iff (by decide) (by decide)]
    rcases hvalid with h | h <;> omega
  have hunderscore : '_' ∉ Nat.toDigits 16 c.toNat := fun h =>
    hexDigit?_of_mem_toDigits h (by decide)
  have hkept : (Nat.toDigits 16 c.toNat).filter (· ≠ '_') = Nat.toDigits 16 c.toNat := by
    rw [List.filter_eq_self]
    intro d hd
    rw [decide_eq_true_eq]
    rintro rfl
    exact hunderscore hd
  have hhead : (Nat.toDigits 16 c.toNat).head? ≠ some '_' := fun h =>
    hunderscore (List.mem_of_mem_head? h)
  unfold scalar?
  simp only [hkept]
  rw [if_neg (by simp [hhead]; omega), hexNumber?_toDigits, Option.bind_some, if_pos hvalid,
    Char.ofNat_toNat]

theorem readEscape_scalar (c : Char) (rest : List Char) :
    readEscape ('u' :: '\x7b' :: (Nat.toDigits 16 c.toNat ++ '\x7d' :: rest)) =
      some (c, rest) := by
  have hdigits : ∀ d ∈ Nat.toDigits 16 c.toNat, decide (d ≠ '\x7d') := by
    intro d hd
    rw [decide_eq_true_eq]
    rintro rfl
    exact hexDigit?_of_mem_toDigits hd (by decide)
  have hstop : Stops (· ≠ '\x7d') ('\x7d' :: rest) := by simp
  rw [readEscape, Text.dropWhile_append_of_stops hdigits hstop,
    Text.takeWhile_append_of_stops hdigits hstop]
  simp only [scalar?_toDigits, Option.map_some]

end Hexadecimal

section Quoted

variable {hidden : Char → Bool} {c : Char} {text rest : List Char}

theorem readQuoted_escape (h : readEscape text = some (c, rest)) :
    readQuoted ('\\' :: text) =
      (readQuoted rest).map fun (value, left) => (c :: value, left) := by
  rw [readQuoted, if_neg (by decide), if_neg (by decide), if_pos rfl]
  split
  · next hsome =>
    rw [h] at hsome
    cases hsome
    rfl
  · next hnone => rw [h] at hnone; cases hnone

theorem readQuoted_plain (hq : c ≠ '\x22') (hr : c ≠ '\r') (hb : c ≠ '\\') :
    readQuoted (c :: rest) =
      (readQuoted rest).map fun (value, left) => (c :: value, left) := by
  rw [readQuoted, if_neg hq, if_neg hr, if_neg hb]

theorem readQuoted_quoteChar (hidden : Char → Bool) (c : Char) (rest : List Char) :
    readQuoted (quoteCharWith hidden c ++ rest) =
      (readQuoted rest).map fun (value, left) => (c :: value, left) := by
  unfold quoteCharWith
  split
  · next h => subst h; exact readQuoted_escape rfl
  split
  · next h => subst h; exact readQuoted_escape rfl
  split
  · next h => subst h; exact readQuoted_escape rfl
  split
  · next h => subst h; exact readQuoted_escape rfl
  split
  · next h => subst h; exact readQuoted_escape rfl
  split
  · next h => subst h; exact readQuoted_escape rfl
  split
  · apply readQuoted_escape
    simpa using readEscape_scalar c rest
  · next hr _ hb hq _ => exact readQuoted_plain hq hr hb

/-- Whatever characters are hidden by their numbers, quoting is undone. -/
theorem readQuoted_quoted (hidden : Char → Bool) (text rest : List Char) :
    readQuoted (text.flatMap (quoteCharWith hidden) ++ '\x22' :: rest) = some (text, rest) := by
  induction text with
  | nil => rw [List.flatMap_nil, List.nil_append, readQuoted, if_pos rfl]
  | cons c text ih =>
    rw [List.flatMap_cons, List.append_assoc, readQuoted_quoteChar, ih]
    rfl

end Quoted

section Raw

variable {n hashes : Nat} {text rest : List Char}

/-- Somewhere in the text a quote is followed by that many hashes. -/
def ClosesWith (hashes : Nat) (text : List Char) : Prop :=
  ∃ before after, text = before ++ '\x22' :: (List.replicate hashes '#' ++ after)

theorem replicate_prefix_iff :
    List.replicate n '#' <+: text ↔ n ≤ (text.takeWhile (· = '#')).length := by
  induction n generalizing text with
  | zero => simp
  | succ n ih =>
    cases text with
    | nil => simp [List.replicate_succ]
    | cons c text =>
      rw [List.replicate_succ, List.cons_prefix_cons, ih]
      by_cases hc : c = '#'
      · simp [hc]
      · simp [hc, Ne.symm hc]

theorem closesWith_cons {c : Char} : ClosesWith n (c :: rest) ↔
    (c = '\x22' ∧ List.replicate n '#' <+: rest) ∨ ClosesWith n rest := by
  constructor
  · rintro ⟨before, after, htext⟩
    cases before with
    | nil =>
      obtain ⟨rfl, rfl⟩ := List.cons.inj htext
      exact .inl ⟨rfl, List.prefix_append _ _⟩
    | cons d before =>
      exact .inr ⟨before, after, (List.cons.inj htext).2⟩
  · rintro (⟨rfl, after, rfl⟩ | ⟨before, after, rfl⟩)
    · exact ⟨[], after, rfl⟩
    · exact ⟨c :: before, after, rfl⟩

/-- Reading keeps the longest run. The run that reading goes on in may grow by the hashes in front
of it, and every other one stands behind a quote still to come. -/
theorem le_longestCloseFrom_iff {run : Option Nat} {longest : Nat}
    (hrun : ∀ k ∈ run, k ≤ longest) :
    n ≤ longestCloseFrom run longest text ↔
      n ≤ longest ∨ (∃ k ∈ run, n ≤ k + (text.takeWhile (· = '#')).length) ∨
        ClosesWith n text := by
  induction text generalizing run longest with
  | nil =>
    have hnone : ¬ ClosesWith n [] := by
      rintro ⟨before, after, htext⟩
      simp at htext
    rw [longestCloseFrom, or_iff_left hnone, iff_self_or]
    rintro ⟨k, hk, hle⟩
    have hlongest := hrun k hk
    exact Nat.le_trans hle hlongest
  | cons c text ih =>
    have hnext : ∀ k ∈ closeRun run c, k ≤ max longest ((closeRun run c).getD 0) := by
      intro k hk
      rw [Option.mem_def.mp hk]
      exact Nat.le_max_right longest k
    rw [longestCloseFrom, ih hnext, closesWith_cons, replicate_prefix_iff]
    -- Only a hash lets the run go on, and it leaves the front of what is still to read.
    by_cases hhash : c = '#'
    · subst hhash
      cases run with
      | none => simp [closeRun]
      | some k =>
        have hgrown : ∀ hashes : Nat, n ≤ max longest (k + 1) ∨ n ≤ k + 1 + hashes ↔
            n ≤ longest ∨ n ≤ k + (hashes + 1) := by omega
        simpa [closeRun, or_assoc] using or_congr_left (c := ClosesWith n text) (hgrown _)
    · have hended : (∃ k ∈ run, n ≤ k + ((c :: text).takeWhile (· = '#')).length) →
          n ≤ longest := by
        rintro ⟨k, hk, hle⟩
        have hlongest := hrun k hk
        simp only [List.takeWhile_cons, hhash, decide_false, Bool.false_eq_true, if_false,
          List.length_nil] at hle
        omega
      rw [← or_assoc (a := n ≤ longest) (b := ∃ k ∈ run, _), or_iff_left_of_imp hended]
      by_cases hquote : c = '\x22'
      · simp [closeRun, hquote]
      · simp [closeRun, hquote, hhash]

theorem le_longestClose_iff (hn : 0 < n) : n ≤ longestClose text ↔ ClosesWith n text := by
  rw [longestClose, le_longestCloseFrom_iff (by simp), or_iff_right (Nat.not_le.mpr hn)]
  simp

theorem takeWhile_hashes (text rest : List Char) :
    (text ++ '\x22' :: rest).takeWhile (· = '#') = text.takeWhile (· = '#') := by
  induction text with
  | nil => rfl
  | cons c text ih => by_cases hc : c = '#' <;> simp [hc, ih]

/-- If no quote inside the text is followed by that many hashes, only the end closes it. -/
theorem readRaw_append (hr : '\r' ∉ text) (h : ¬ ClosesWith hashes text) :
    readRaw hashes (text ++ '\x22' :: (List.replicate hashes '#' ++ rest)) = some (text, rest) := by
  induction text with
  | nil =>
    rw [List.nil_append, readRaw, if_pos ⟨rfl, List.prefix_append _ _⟩,
      List.drop_left' List.length_replicate]
  | cons c text ih =>
    rw [closesWith_cons, not_or, replicate_prefix_iff] at h
    have hopen : ¬ (c = '\x22' ∧ List.replicate hashes '#' <+:
        text ++ '\x22' :: (List.replicate hashes '#' ++ rest)) := by
      rw [replicate_prefix_iff, takeWhile_hashes]
      exact h.1
    have hc : c ≠ '\r' := (List.ne_of_not_mem_cons hr).symm
    rw [List.cons_append, readRaw, if_neg hopen, if_neg hc,
      ih (List.not_mem_of_not_mem_cons hr) h.2]
    rfl

end Raw

/-- Some literal stands for the text: it is quoted, or the hashes that it needs are allowed. -/
def HasLiteral (text : List Char) : Prop := '\r' ∈ text ∨ ¬ ClosesWith maxHashes text

theorem readLiteral_literalWith (hidden : Char → Bool) (text rest : List Char) :
    readLiteral (literalWith hidden text ++ rest) = some (text, rest) ↔ HasLiteral text := by
  rw [HasLiteral, ← le_longestClose_iff (by decide), Nat.not_le]
  have hopen : ¬ ClosesWith (longestClose text + 1) text := by
    rw [← le_longestClose_iff (Nat.succ_pos _)]
    omega
  unfold literalWith
  split
  · next hr =>
    refine iff_of_true ?_ (.inl hr)
    simpa [quotedWith, readLiteral] using readQuoted_quoted hidden text rest
  · next hr =>
    have hhashes : ∀ c ∈ List.replicate (longestClose text + 1) '#', decide (c = '#') := by
      intro c hc
      rw [decide_eq_true_eq]
      exact (List.mem_replicate.mp hc).2
    have hstop : ∀ after, Stops (· = '#') ('\x22' :: after) := fun after => by simp
    have hliteral : 'r' :: List.replicate (longestClose text + 1) '#' ++ '\x22' :: text ++
          '\x22' :: List.replicate (longestClose text + 1) '#' ++ rest =
        'r' :: (List.replicate (longestClose text + 1) '#' ++ '\x22' ::
          (text ++ '\x22' :: (List.replicate (longestClose text + 1) '#' ++ rest))) := by simp
    rw [or_iff_right hr, hliteral]
    simp only [readLiteral, Text.dropWhile_append_of_stops hhashes (hstop _),
      Text.takeWhile_append_of_stops hhashes (hstop _), List.length_replicate]
    split
    · next hle => exact iff_of_true (readRaw_append hr hopen) (by omega)
    · next hgt => exact iff_of_false (by simp) (by omega)

end TypedQuery.Code

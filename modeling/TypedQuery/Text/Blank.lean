import TypedQuery.Text.Ranges

/-! White space. -/
namespace TypedQuery.Text

/-- The characters with the property White_Space. -/
def blankRanges : List (Nat × Nat) :=
  [(0x9, 0xd), (0x20, 0x20), (0x85, 0x85), (0xa0, 0xa0), (0x1680, 0x1680), (0x2000, 0x200a),
   (0x2028, 0x2029), (0x202f, 0x202f), (0x205f, 0x205f), (0x3000, 0x3000)]

def isBlank (c : Char) : Bool := covers blankRanges c.toNat

def trim (text : List Char) : List Char :=
  ((text.dropWhile isBlank).reverse.dropWhile isBlank).reverse

/-- Space or tab, the blanks that may surround the parts of a directive. -/
def isIndent (c : Char) : Bool := c = ' ' || c = '\t'

@[simp] theorem trim_nil : trim [] = [] := rfl

theorem isBlank_of_isIndent {c : Char} (h : isIndent c) : isBlank c := by
  simp only [isIndent, Bool.or_eq_true, decide_eq_true_eq] at h
  rcases h with rfl | rfl <;> decide

end TypedQuery.Text

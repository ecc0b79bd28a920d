import TypedQuery.Proofs.Sql.Reference
import TypedQuery.Sql.Run

/-! Texts in place of references. -/
namespace TypedQuery.Sql

open Text (isWord Stops)

/-- The text with the value of each name in place of its references, all at once. A reference to a
name without a value stays. -/
def substitute (value : List Char → Option (List Char)) : List Char → List Char
  | [] => []
  | c :: rest =>
    if c = '@' ∧ rest.takeWhile isWord ≠ [] then
      (value (rest.takeWhile isWord)).getD ('@' :: rest.takeWhile isWord) ++
        substitute value (rest.dropWhile isWord)
    else c :: substitute value rest
termination_by text => text.length
decreasing_by
  · have := length_dropWhile_le isWord rest
    simp only [List.length_cons]
    omega
  · simp

/-- The same in the code of a text. Comments and quoted text stay. -/
def substituteCode (value : List Char → Option (List Char)) (segments : List Run) : List Char :=
  segments.flatMap fun run => if run.code then substitute value run.text else run.text

variable {value : List Char → Option (List Char)} {c : Char} {name rest : List Char}

@[simp] theorem substitute_nil : substitute value [] = [] := by simp [substitute]

theorem substitute_plain (h : c = '@' → Stops isWord rest) :
    substitute value (c :: rest) = c :: substitute value rest := by
  rw [substitute, if_neg]
  rintro ⟨hc, hne⟩
  exact hne (Text.takeWhile_eq_nil.mpr (h hc))

theorem substitute_reference (hn : IsWord name) (hs : Stops isWord rest) :
    substitute value ('@' :: (name ++ rest)) =
      (value name).getD ('@' :: name) ++ substitute value rest := by
  rw [substitute, Text.takeWhile_append_of_stops hn.2 hs, Text.dropWhile_append_of_stops hn.2 hs,
    if_pos ⟨rfl, hn.1⟩]

end TypedQuery.Sql

import Mathlib.Data.List.Basic
import Mathlib.Order.Basic
import Mathlib.Tactic.Common

/-!
# A terminal

Characters are written into the row of the cursor, over what stands there. A carriage return takes
the cursor back to the start of the row, and a newline leaves the row as it is for good.
-/

namespace Terminal

/-- The rows that are left, the row of the cursor and the column of the cursor. -/
structure Screen where
  above : List (List Char)
  row : List Char
  column : Nat
deriving DecidableEq, Repr

def Screen.put (s : Screen) (c : Char) : Screen :=
  if c = '\r' then { s with column := 0 }
  else if c = '\n' then ⟨s.above ++ [s.row], [], 0⟩
  else
    { s with
      row := s.row.take s.column ++ c :: s.row.drop (s.column + 1)
      column := s.column + 1 }

def Screen.write (s : Screen) (text : List Char) : Screen := text.foldl Screen.put s

/-- Whether the cursor is at the start of an empty row. -/
def Screen.Fresh (s : Screen) : Prop := s.row = [] ∧ s.column = 0

lemma Screen.write_append (s : Screen) (a b : List Char) :
    s.write (a ++ b) = (s.write a).write b := List.foldl_append

@[simp] lemma Screen.put_return (s : Screen) : s.put '\r' = { s with column := 0 } := rfl

/-- A row is as wide as what is written into it, where that is wider than the row. -/
structure Screen.Within (s : Screen) (width : Nat) : Prop where
  row : s.row.length ≤ width
  column : s.column ≤ s.row.length

lemma Screen.Within.put {s : Screen} {width : Nat} (h : s.Within width) (c : Char)
    (hcolumn : s.column < width) : (s.put c).Within width := by
  have hrow := h.row
  have hwithin := h.column
  unfold Screen.put
  split_ifs
  · exact ⟨hrow, Nat.zero_le _⟩
  · exact ⟨Nat.zero_le _, Nat.le_refl 0⟩
  · constructor <;> simp only [List.length_append, List.length_take, List.length_cons,
      List.length_drop] <;> omega

lemma Screen.column_put_le (s : Screen) (c : Char) : (s.put c).column ≤ s.column + 1 := by
  unfold Screen.put
  split_ifs <;> simp

lemma Screen.Within.write {s : Screen} {width : Nat} (h : s.Within width) {text : List Char}
    (htext : s.column + text.length ≤ width) : (s.write text).Within width := by
  induction text generalizing s with
  | nil => exact h
  | cons c text ih =>
    rw [List.length_cons] at htext
    have hcolumn := s.column_put_le c
    exact ih (h.put c (by omega)) (by omega)

lemma Screen.Within.mono {s : Screen} {width width' : Nat} (h : s.Within width)
    (hle : width ≤ width') : s.Within width' := ⟨Nat.le_trans h.row hle, h.column⟩

lemma Screen.Fresh.within {s : Screen} (h : s.Fresh) (width : Nat) : s.Within width := by
  obtain ⟨hrow, hcolumn⟩ := h
  constructor
  · rw [hrow]
    exact Nat.zero_le _
  · rw [hcolumn]
    exact Nat.zero_le _

lemma Screen.fresh_writeln (s : Screen) (text : List Char) : (s.write (text ++ ['\n'])).Fresh := by
  rw [Screen.write_append]
  exact ⟨rfl, rfl⟩

end Terminal

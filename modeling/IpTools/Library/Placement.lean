import Mathlib.Data.List.Basic
import Mathlib.Tactic.Common

/-!
# Chunks at positions

A chunk stands in a sequence at a position. What stands there can be read from there, and two
chunks stand next to each other where their concatenation does.
-/

namespace Placement

variable {α : Type*} {l chunk a b : List α} {pos : Nat}

/-- The chunk stands in the sequence at the position. -/
def At (l : List α) (pos : Nat) (chunk : List α) : Prop :=
  ∃ before after, l = before ++ (chunk ++ after) ∧ before.length = pos

lemma at_self (l : List α) : At l 0 l := ⟨[], [], by simp, rfl⟩

lemma at_append_iff : At l pos (a ++ b) ↔ At l pos a ∧ At l (pos + a.length) b := by
  constructor
  · rintro ⟨before, after, rfl, rfl⟩
    exact ⟨⟨before, b ++ after, by simp, rfl⟩, ⟨before ++ a, after, by simp, by simp⟩⟩
  · rintro ⟨⟨before, after, rfl, rfl⟩, ⟨before', after', heq, hlength⟩⟩
    rw [← List.append_assoc] at heq
    obtain ⟨rfl, rfl⟩ := List.append_inj heq (by simp [hlength])
    exact ⟨before, after', by simp, rfl⟩

lemma at_cons_iff {x : α} : At l pos (x :: a) ↔ l[pos]? = some x ∧ At l (pos + 1) a := by
  rw [← List.singleton_append, at_append_iff]
  refine and_congr ⟨?_, fun h => ?_⟩ Iff.rfl
  · rintro ⟨before, after, rfl, rfl⟩
    simp
  · obtain ⟨hlt, hx⟩ := List.getElem?_eq_some_iff.mp h
    refine ⟨l.take pos, l.drop (pos + 1), ?_, by simp; omega⟩
    rw [← hx, List.singleton_append, List.getElem_cons_drop, List.take_append_drop]

lemma At.length_le (h : At l pos chunk) : pos + chunk.length ≤ l.length := by
  obtain ⟨before, after, rfl, rfl⟩ := h
  simp only [List.length_append]
  omega

/-- What stands at a position is read from there. -/
lemma At.take_drop (h : At l pos chunk) : (l.drop pos).take chunk.length = chunk := by
  obtain ⟨before, after, rfl, rfl⟩ := h
  rw [List.drop_left, List.take_left]

end Placement

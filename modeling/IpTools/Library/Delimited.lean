import Mathlib.Data.List.Basic
import Mathlib.Tactic.Common

/-!
# Delimited text

A text that ends at its first delimiter can be read back from what it was written into, and so can
one whose characters are written with codes that do not start one another.
-/

namespace Delimited

/-- Two texts without the delimiter, the first of which starts what the second was written into. -/
theorem starts_iff {α : Type*} {c : α} {s t d rest : List α} (hs : c ∉ s) (ht : c ∉ t) :
    s ++ c :: d <+: t ++ c :: (d ++ rest) ↔ s = t := by
  constructor
  · induction s generalizing t with
    | nil =>
      intro h
      cases t with
      | nil => rfl
      | cons b t =>
        rw [List.nil_append, List.cons_append, List.cons_prefix_cons] at h
        exact absurd List.mem_cons_self (h.1 ▸ ht)
    | cons a s ih =>
      intro h
      cases t with
      | nil =>
        rw [List.cons_append, List.nil_append, List.cons_prefix_cons] at h
        exact absurd List.mem_cons_self (h.1 ▸ hs)
      | cons b t =>
        rw [List.cons_append, List.cons_append, List.cons_prefix_cons] at h
        rw [List.mem_cons, not_or] at hs ht
        rw [h.1, ih hs.2 ht.2 h.2]
  · rintro rfl
    exact ⟨rest, by simp⟩

/-- A text is read back from the codes of its characters where no code starts another one. -/
theorem flatMap_injective {α β : Type*} {f : α → List β} (hne : ∀ a, f a ≠ [])
    (hcode : ∀ a b s t, f a ++ s = f b ++ t → a = b ∧ s = t) :
    Function.Injective (List.flatMap f) := by
  intro l
  induction l with
  | nil =>
    intro l' h
    cases l' with
    | nil => rfl
    | cons b l' =>
      rw [List.flatMap_nil, List.flatMap_cons] at h
      exact absurd (List.append_eq_nil_iff.mp h.symm).1 (hne b)
  | cons a l ih =>
    intro l' h
    cases l' with
    | nil =>
      rw [List.flatMap_nil, List.flatMap_cons] at h
      exact absurd (List.append_eq_nil_iff.mp h).1 (hne a)
    | cons b l' =>
      rw [List.flatMap_cons, List.flatMap_cons] at h
      obtain ⟨rfl, hrest⟩ := hcode a b _ _ h
      rw [ih hrest]

end Delimited

import Mathlib.Data.List.Basic

/-!
# Relabelling a list

One list is a rearrangement of the images of another. What a test of the first list's items can
find out, a test of the second that respects the relabelling finds out too.
-/

namespace Relabelling

variable {α β γ : Type*} {f : α → β} {l : List α} {l' : List β}

lemma exists_iff (h : l'.Perm (l.map f)) {P : β → Prop} {Q : α → Prop}
    (hf : ∀ a, P (f a) ↔ Q a) : (∃ b ∈ l', P b) ↔ ∃ a ∈ l, Q a := by
  simp only [h.mem_iff, List.mem_map, exists_exists_and_eq_and, hf]

lemma forall_iff (h : l'.Perm (l.map f)) {P : β → Prop} {Q : α → Prop}
    (hf : ∀ a, P (f a) ↔ Q a) : (∀ b ∈ l', P b) ↔ ∀ a ∈ l, Q a := by
  simp only [h.mem_iff, List.forall_mem_map, hf]

lemma any_eq (h : l'.Perm (l.map f)) {p : β → Bool} {q : α → Bool}
    (hf : ∀ a, p (f a) = q a) : l'.any p = l.any q := by
  rw [h.any_eq, List.any_map]
  congr 1
  funext a
  exact hf a

lemma filter_perm (h : l'.Perm (l.map f)) {p : β → Bool} {q : α → Bool}
    (hf : ∀ a, p (f a) = q a) : (l'.filter p).Perm ((l.filter q).map f) := by
  have hfilter := h.filter p
  rw [List.filter_map] at hfilter
  have hpq : p ∘ f = q := funext hf
  rwa [hpq] at hfilter

lemma filterMap_perm (h : l'.Perm (l.map f)) {p : β → Option γ} {q : α → Option γ}
    (hf : ∀ a, p (f a) = q a) : (l'.filterMap p).Perm (l.filterMap q) := by
  have hmap := h.filterMap p
  rw [List.filterMap_map] at hmap
  have hpq : p ∘ f = q := funext hf
  rwa [hpq] at hmap

lemma flatMap_perm (h : l'.Perm (l.map f)) {p : β → List γ} {q : α → List γ}
    (hf : ∀ a, p (f a) = q a) : (l'.flatMap p).Perm (l.flatMap q) := by
  have hmap := h.flatMap_right p
  rw [List.flatMap_map] at hmap
  simpa only [hf] using hmap

end Relabelling

import Mathlib.Data.List.Basic
import Mathlib.Tactic.Common

/-!
# Grouping a list into an ordered map

A loop that folds each item into the entry of its key. An entry exists exactly for the keys of
the items, and holds the fold of the items of that key in their order.
-/

namespace Grouping
open Std

variable {α κ β : Type*} [DecidableEq κ] {cmp : κ → κ → Ordering} [TransCmp cmp]

/-- Fold the items into the map, an absent entry starting from `zero`. -/
def group (cmp : κ → κ → Ordering) [TransCmp cmp] (key : α → κ) (zero : β) (add : β → α → β)
    (l : List α) : ExtTreeMap κ β cmp :=
  l.foldl (fun m a => m.alter (key a) (fun entry => some (add (entry.getD zero) a))) ∅

variable [LawfulEqCmp cmp] {key : α → κ} {zero : β} {add : β → α → β} {l : List α}

lemma getElem?_foldl_alter (m : ExtTreeMap κ β cmp) (k : κ) :
    (l.foldl (fun m a => m.alter (key a) (fun entry => some (add (entry.getD zero) a))) m)[k]? =
      if k ∈ l.map key then
        some ((l.filter (fun a => key a = k)).foldl add (m[k]?.getD zero))
      else m[k]? := by
  induction l generalizing m with
  | nil => simp
  | cons a l ih =>
    rw [List.foldl_cons, ih]
    simp only [ExtTreeMap.getElem?_alter, LawfulEqCmp.compare_eq_iff_eq]
    by_cases ha : key a = k
    · subst ha
      by_cases hl : key a ∈ l.map key
      · simp [hl]
      · have hfilter : l.filter (fun b => key b = key a) = [] := by
          simp only [List.filter_eq_nil_iff, decide_eq_true_eq]
          exact fun b hb he => hl (List.mem_map.mpr ⟨b, hb, he⟩)
        simp [hl, hfilter]
    · have hk : k ∈ (a :: l).map key ↔ k ∈ l.map key := by
        simp [show k ≠ key a from fun h => ha h.symm]
      rw [List.filter_cons_of_neg (by simpa using ha)]
      simp only [hk, ha, if_false]

theorem getElem?_group (k : κ) :
    (group cmp key zero add l)[k]? =
      if k ∈ l.map key then some ((l.filter (fun a => key a = k)).foldl add zero) else none := by
  rw [group, getElem?_foldl_alter]
  simp

lemma mem_toList_group (k : κ) (b : β) :
    (k, b) ∈ (group cmp key zero add l).toList ↔
      k ∈ l.map key ∧ (l.filter (fun a => key a = k)).foldl add zero = b := by
  rw [ExtTreeMap.mem_toList_iff_getElem?_eq_some, getElem?_group]
  by_cases h : k ∈ l.map key <;> simp [h]

lemma mem_keys_group {k : κ} : k ∈ (group cmp key zero add l).keys ↔ k ∈ l.map key := by
  rw [ExtTreeMap.mem_keys, ExtTreeMap.mem_iff_isSome_getElem?, getElem?_group]
  by_cases h : k ∈ l.map key <;> simp [h]

/-- The order of the items does not show in the keys. -/
lemma keys_group_of_perm {l' : List α} (h : l.Perm l') :
    (group cmp key zero add l).keys = (group cmp key zero add l').keys := by
  refine List.Perm.eq_of_pairwise (fun a b _ _ hab hba => ?_)
    ExtTreeMap.ordered_keys ExtTreeMap.ordered_keys ?_
  · rw [OrientedCmp.gt_of_lt hab] at hba
    cases hba
  · rw [List.perm_ext_iff_of_nodup ExtTreeMap.nodup_keys ExtTreeMap.nodup_keys]
    intro k
    rw [mem_keys_group, mem_keys_group]
    exact (h.map key).mem_iff

/-- The entries are the keys with the folds of their items. -/
theorem toList_group : (group cmp key zero add l).toList = (group cmp key zero add l).keys.map
    (fun k => (k, (l.filter (fun a => key a = k)).foldl add zero)) := by
  rw [← ExtTreeMap.map_fst_toList_eq_keys, List.map_map]
  refine (List.map_id _).symm.trans (List.map_congr_left (fun e he => ?_))
  exact Prod.ext rfl ((mem_toList_group e.1 e.2).mp he).2.symm

/-- Some entry has a property exactly when the fold of some item's key has it. -/
theorem exists_toList_group {P : κ → β → Prop} :
    (∃ e ∈ (group cmp key zero add l).toList, P e.1 e.2) ↔
      ∃ a ∈ l, P (key a) ((l.filter (fun b => key b = key a)).foldl add zero) := by
  constructor
  · rintro ⟨⟨k, b⟩, he, hP⟩
    obtain ⟨hk, rfl⟩ := (mem_toList_group k b).mp he
    obtain ⟨a, ha, rfl⟩ := List.mem_map.mp hk
    exact ⟨a, ha, hP⟩
  · rintro ⟨a, ha, hP⟩
    exact ⟨(key a, _), (mem_toList_group _ _).mpr ⟨List.mem_map_of_mem ha, rfl⟩, hP⟩

/-- A loop that overwrites entries keeps the last value of each key. -/
theorem getElem?_foldl_insert (val : α → β) (m : ExtTreeMap κ β cmp) (k : κ) :
    (l.foldl (fun m a => m.insert (key a) (val a)) m)[k]? =
      ((l.filter (fun a => key a = k)).getLast?.map val).or m[k]? := by
  induction l generalizing m with
  | nil => simp
  | cons a l ih =>
    rw [List.foldl_cons, ih, ExtTreeMap.getElem?_insert]
    simp only [LawfulEqCmp.compare_eq_iff_eq]
    by_cases ha : key a = k
    · rw [List.filter_cons_of_pos (by simpa using ha), List.getLast?_cons, if_pos ha]
      cases (l.filter (fun b => key b = k)).getLast? <;> simp
    · rw [List.filter_cons_of_neg (by simpa using ha), if_neg ha]

lemma mem_toList_overwrite {val : α → β} {k : κ} {b : β} :
    (k, b) ∈ (l.foldl (fun m a => m.insert (key a) (val a)) (∅ : ExtTreeMap κ β cmp)).toList ↔
      ∃ a, (l.filter (fun a => key a = k)).getLast? = some a ∧ val a = b := by
  rw [ExtTreeMap.mem_toList_iff_getElem?_eq_some, getElem?_foldl_insert]
  simp

end Grouping

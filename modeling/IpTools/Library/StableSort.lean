import Mathlib.Data.List.Basic
import Mathlib.Data.List.Nodup
import Mathlib.Tactic.Common

/-!
# Stable sorting by a key

A stable sort moves no item past one of the same key. Its result is determined by the sublists of
equal keys, so it forgets every order of the input but the one within them.
-/

namespace StableSort

variable {α β κ : Type*} [Ord κ]

def sortByKey (key : α → κ) (l : List α) : List α :=
  l.mergeSort (fun a b => (compare (key a) (key b)).isLE)

def Ascending (key : α → κ) (l : List α) : Prop :=
  l.Pairwise (fun a b => (compare (key a) (key b)).isLE = true)

lemma sortByKey_perm (key : α → κ) (l : List α) : (sortByKey key l).Perm l :=
  List.mergeSort_perm _ _

lemma sortByKey_map (key : α → κ) (f : β → α) (l : List β) :
    sortByKey key (l.map f) = (sortByKey (fun b => key (f b)) l).map f := by
  unfold sortByKey
  rw [List.map_mergeSort]
  exact fun _ _ _ _ => rfl

lemma sortByKey_of_ascending {key : α → κ} {l : List α} (h : Ascending key l) :
    sortByKey key l = l := List.mergeSort_of_pairwise h

variable [Std.TransOrd κ]

lemma le_trans_key (key : α → κ) (a b c : α) (hab : (compare (key a) (key b)).isLE = true)
    (hbc : (compare (key b) (key c)).isLE = true) : (compare (key a) (key c)).isLE = true :=
  Std.TransOrd.isLE_trans hab hbc

lemma le_total_key (key : α → κ) (a b : α) :
    ((compare (key a) (key b)).isLE || (compare (key b) (key a)).isLE) = true := by
  rw [Std.OrientedOrd.eq_swap (a := key b)]
  cases compare (key a) (key b) <;> rfl

lemma ascending_sortByKey (key : α → κ) (l : List α) : Ascending key (sortByKey key l) :=
  List.pairwise_mergeSort (le_trans_key key) (le_total_key key) l

variable [Std.LawfulEqOrd κ] [DecidableEq κ]

/-- Items of one key stay in their order. -/
theorem filter_sortByKey (key : α → κ) (l : List α) (k : κ) :
    (sortByKey key l).filter (fun a => key a = k) = l.filter (fun a => key a = k) := by
  have hsame : Ascending key (l.filter (fun a => key a = k)) := by
    refine List.pairwise_of_forall_mem_list (fun a ha b hb => ?_)
    rw [of_decide_eq_true (List.mem_filter.mp ha).2, of_decide_eq_true (List.mem_filter.mp hb).2,
      Std.ReflOrd.compare_self]
    rfl
  have hsub : (l.filter (fun a => key a = k)).Sublist (sortByKey key l) :=
    List.sublist_mergeSort (le_trans_key key) (le_total_key key) hsame List.filter_sublist
  have hsub' := hsub.filter (fun a => key a = k)
  rw [List.filter_filter] at hsub'
  simp only [Bool.and_self] at hsub'
  exact (hsub'.eq_of_length ((sortByKey_perm key l).filter _).length_eq.symm).symm

/-- Two ascending lists with the same items of each key are the same. -/
theorem Ascending.eq_of_filter {key : α → κ} {l l' : List α} (h : Ascending key l)
    (h' : Ascending key l')
    (hkeys : ∀ k, l.filter (fun a => key a = k) = l'.filter (fun a => key a = k)) : l = l' := by
  induction l generalizing l' with
  | nil =>
    cases l' with
    | nil => rfl
    | cons b l' =>
      have hb := hkeys (key b)
      rw [List.filter_cons_of_pos (by simp)] at hb
      cases hb
  | cons a l ih =>
    cases l' with
    | nil =>
      have ha := hkeys (key a)
      rw [List.filter_cons_of_pos (by simp)] at ha
      cases ha
    | cons b l' =>
      -- each head is of the least key, and the first of it
      have hle : (compare (key a) (key b)).isLE = true := by
        have hmem : b ∈ (a :: l).filter (fun x => key x = key b) := by
          rw [hkeys (key b)]
          simp
        rcases List.mem_cons.mp (List.mem_filter.mp hmem).1 with rfl | hb
        · rw [Std.ReflOrd.compare_self]
          rfl
        · exact (List.pairwise_cons.mp h).1 b hb
      have hle' : (compare (key b) (key a)).isLE = true := by
        have hmem : a ∈ (b :: l').filter (fun x => key x = key a) := by
          rw [← hkeys (key a)]
          simp
        rcases List.mem_cons.mp (List.mem_filter.mp hmem).1 with rfl | ha
        · rw [Std.ReflOrd.compare_self]
          rfl
        · exact (List.pairwise_cons.mp h').1 a ha
      have hkey : key a = key b :=
        Std.LawfulEqOrd.eq_of_compare (Std.OrientedCmp.isLE_antisymm hle hle')
      have hhead := hkeys (key a)
      rw [List.filter_cons_of_pos (by simp), List.filter_cons_of_pos (by simp [hkey])] at hhead
      obtain ⟨rfl, -⟩ := List.cons.inj hhead
      refine congrArg (a :: ·) (ih (List.pairwise_cons.mp h).2 (List.pairwise_cons.mp h').2 ?_)
      intro k
      have hk := hkeys k
      by_cases hak : key a = k
      · rw [List.filter_cons_of_pos (by simp [hak]), List.filter_cons_of_pos (by simp [hak])] at hk
        exact (List.cons.inj hk).2
      · rwa [List.filter_cons_of_neg (by simp [hak]), List.filter_cons_of_neg (by simp [hak])] at hk

/-- What is sorted only depends on the items of each key. -/
theorem sortByKey_congr {key : α → κ} {l l' : List α}
    (h : ∀ k, l.filter (fun a => key a = k) = l'.filter (fun a => key a = k)) :
    sortByKey key l = sortByKey key l' :=
  (ascending_sortByKey key l).eq_of_filter (ascending_sortByKey key l')
    (fun k => by rw [filter_sortByKey, filter_sortByKey, h k])

/-- With distinct keys, the order of the items is forgotten. -/
theorem sortByKey_eq_of_perm {key : α → κ} {l l' : List α} (h : l.Perm l')
    (hnodup : (l'.map key).Nodup) : sortByKey key l = sortByKey key l' := by
  refine sortByKey_congr (fun k => ?_)
  have hperm := h.filter (fun a => key a = k)
  have hlength : (l'.filter (fun a => key a = k)).length ≤ 1 := by
    rw [← List.countP_eq_length_filter]
    have hcount := List.nodup_iff_count_le_one.mp hnodup k
    rw [List.count, List.countP_map] at hcount
    exact hcount
  match hl : l'.filter (fun a => key a = k) with
  | [] =>
    rw [hl] at hperm
    exact hperm.eq_nil
  | [a] =>
    rw [hl] at hperm
    exact List.perm_singleton.mp hperm
  | a :: b :: rest =>
    rw [hl] at hlength
    exact absurd hlength (by simp)

/-- Groups of items of one key each are sorted as a whole. -/
theorem sortByKey_flatMap {key : α → κ} (group : κ → List α)
    (hgroup : ∀ k, ∀ a ∈ group k, key a = k) (ks : List κ) :
    sortByKey key (ks.flatMap group) = (sortByKey id ks).flatMap group := by
  have hfilter : ∀ (ks : List κ) (k : κ), (ks.flatMap group).filter (fun a => key a = k) =
      (ks.filter (fun j => id j = k)).flatMap group := by
    intro ks k
    induction ks with
    | nil => rfl
    | cons j ks ih =>
      rw [List.flatMap_cons, List.filter_append, ih]
      by_cases hj : j = k
      · rw [List.filter_cons_of_pos (by simp [hj]), List.flatMap_cons,
          List.filter_eq_self.mpr (fun a ha => by simp [hgroup j a ha, hj])]
      · rw [List.filter_cons_of_neg (by simp [hj]),
          List.filter_eq_nil_iff.mpr (fun a ha => by simp [hgroup j a ha, hj]), List.nil_append]
  refine (ascending_sortByKey key _).eq_of_filter ?_ (fun k => ?_)
  · have hsorted := ascending_sortByKey id ks
    generalize sortByKey id ks = sorted at hsorted
    induction sorted with
    | nil => exact List.Pairwise.nil
    | cons j sorted ih =>
      obtain ⟨hj, hrest⟩ := List.pairwise_cons.mp hsorted
      rw [List.flatMap_cons]
      refine List.pairwise_append.mpr ⟨?_, ih hrest, ?_⟩
      · refine List.pairwise_of_forall_mem_list (fun a ha b hb => ?_)
        rw [hgroup j a ha, hgroup j b hb, Std.ReflOrd.compare_self]
        rfl
      · intro a ha b hb
        obtain ⟨i, hi, hb⟩ := List.mem_flatMap.mp hb
        rw [hgroup j a ha, hgroup i b hb]
        exact hj i hi
  · rw [filter_sortByKey, hfilter, hfilter, filter_sortByKey]

end StableSort

import Mathlib.Data.List.Count
import Mathlib.Data.List.Induction
import Mathlib.Data.List.Nodup
import Mathlib.Algebra.Ring.Nat
import Mathlib.Algebra.BigOperators.Group.List.Basic
import Mathlib.Tactic.Common

/-!
# Tallies

Keys are counted in a map with one entry for each key. The entries of a tally are sorted by
falling count, and by rising key where counts are equal: this order is strict on them, so it
forgets in which order the keys were counted and in which order the map is read.
-/

namespace Tally

section Counting

variable {α : Type} [DecidableEq α]

def bump (k : α) : List (α × Nat) → List (α × Nat)
  | [] => [(k, 1)]
  | e :: m => if e.1 = k then (e.1, e.2 + 1) :: m else e :: bump k m

/-- What a map of counts has to be for the keys counted. -/
structure Of (ks : List α) (m : List (α × Nat)) : Prop where
  nodup : (m.map Prod.fst).Nodup
  mem_iff : ∀ k n, (k, n) ∈ m ↔ 0 < n ∧ n = ks.count k

lemma Of.nil : Of ([] : List α) [] := by
  refine ⟨List.nodup_nil, fun k n => ?_⟩
  simp only [List.not_mem_nil, List.count_nil, false_iff]
  omega

lemma Of.of_perm_map {ks : List α} {m m' : List (α × Nat)} (h : Of ks m) (hm : m.Perm m') :
    Of ks m' :=
  ⟨(hm.map _).nodup_iff.mp h.nodup, fun k n => (hm.mem_iff).symm.trans (h.mem_iff k n)⟩

lemma Of.of_perm_keys {ks ks' : List α} {m : List (α × Nat)} (h : Of ks m) (hk : ks.Perm ks') :
    Of ks' m :=
  ⟨h.nodup, fun k n => (h.mem_iff k n).trans (by rw [hk.count_eq])⟩

/-- The keys of the map are the keys counted. -/
lemma Of.mem_keys {ks : List α} {m : List (α × Nat)} (h : Of ks m) (k : α) :
    k ∈ m.map Prod.fst ↔ k ∈ ks := by
  constructor
  · intro hmem
    obtain ⟨⟨k, n⟩, hn, rfl⟩ := List.mem_map.mp hmem
    obtain ⟨hpos, rfl⟩ := (h.mem_iff k n).mp hn
    exact List.count_pos_iff.mp hpos
  · intro hk
    exact List.mem_map_of_mem ((h.mem_iff k _).mpr ⟨List.count_pos_iff.mpr hk, rfl⟩)

/-- The keys counted determine the map up to the order of its entries. -/
theorem Of.unique {ks : List α} {m m' : List (α × Nat)} (h : Of ks m) (h' : Of ks m') :
    m.Perm m' := by
  refine (List.perm_ext_iff_of_nodup (List.Nodup.of_map _ h.nodup)
    (List.Nodup.of_map _ h'.nodup)).mpr ?_
  rintro ⟨k, n⟩
  exact (h.mem_iff k n).trans (h'.mem_iff k n).symm

lemma keys_bump (k : α) (m : List (α × Nat)) :
    (bump k m).map Prod.fst =
      if k ∈ m.map Prod.fst then m.map Prod.fst else m.map Prod.fst ++ [k] := by
  induction m with
  | nil => rfl
  | cons e m ih =>
    rw [bump]
    by_cases he : e.1 = k
    · rw [if_pos he, if_pos (by simp [he])]
      rfl
    · rw [if_neg he, List.map_cons, ih, List.map_cons]
      by_cases hk : k ∈ m.map Prod.fst
      · rw [if_pos hk, if_pos (List.mem_cons_of_mem _ hk)]
      · rw [if_neg hk, if_neg (by simpa [Ne.symm he] using hk)]
        rfl

lemma mem_bump_of_ne {k a : α} (hak : a ≠ k) (m : List (α × Nat)) (n : Nat) :
    (a, n) ∈ bump k m ↔ (a, n) ∈ m := by
  induction m with
  | nil => simp [bump, hak]
  | cons e m ih =>
    rw [bump]
    by_cases he : e.1 = k
    · have hne : ∀ c, (a, n) ≠ (e.1, c) := fun c h => hak ((Prod.ext_iff.mp h).1.trans he)
      rw [if_pos he]
      simp [hne (e.2 + 1), show (a, n) ≠ e from hne e.2]
    · rw [if_neg he, List.mem_cons, ih, List.mem_cons]

lemma mem_bump_self {k : α} {m : List (α × Nat)} (hm : (m.map Prod.fst).Nodup) (n : Nat) :
    (k, n) ∈ bump k m ↔ (∃ c, (k, c) ∈ m ∧ n = c + 1) ∨ (k ∉ m.map Prod.fst ∧ n = 1) := by
  induction m with
  | nil => simp [bump]
  | cons e m ih =>
    rw [List.map_cons, List.nodup_cons] at hm
    obtain ⟨a, c⟩ := e
    rw [bump]
    by_cases he : a = k
    · subst he
      have hnew : ∀ c', (a, c') ∉ m := fun c' h => hm.1 (List.mem_map.mpr ⟨_, h, rfl⟩)
      simp [hnew]
    · rw [if_neg he, List.mem_cons, ih hm.2]
      simp [Ne.symm he]

/-- Counting a key more keeps a map a tally. -/
theorem Of.bump {ks : List α} {m : List (α × Nat)} (h : Of ks m) (k : α) :
    Of (ks ++ [k]) (bump k m) := by
  constructor
  · rw [keys_bump]
    split_ifs with hk
    · exact h.nodup
    · exact List.nodup_append_comm.mp (List.nodup_cons.mpr ⟨hk, h.nodup⟩)
  · intro a n
    by_cases ha : a = k
    · subst ha
      rw [mem_bump_self h.nodup, List.count_append, List.count_singleton_self]
      have hkeys : a ∉ m.map Prod.fst ↔ ks.count a = 0 := by
        constructor
        · intro hnew
          by_contra hpos
          exact hnew (List.mem_map_of_mem ((h.mem_iff a _).mpr ⟨Nat.pos_of_ne_zero hpos, rfl⟩))
        · intro hzero hmem
          obtain ⟨⟨b, c⟩, hc, rfl⟩ := List.mem_map.mp hmem
          obtain ⟨hpos, rfl⟩ := (h.mem_iff b c).mp hc
          exact absurd hzero (Nat.ne_of_gt hpos)
      rw [hkeys]
      constructor
      · rintro (⟨c, hc, rfl⟩ | ⟨hzero, rfl⟩)
        · have hcount := (h.mem_iff a c).mp hc
          omega
        · omega
      · rintro ⟨-, rfl⟩
        rcases Nat.eq_zero_or_pos (ks.count a) with hzero | hpos
        · exact .inr ⟨hzero, by omega⟩
        · exact .inl ⟨_, (h.mem_iff a _).mpr ⟨hpos, rfl⟩, rfl⟩
    · have hzero : [k].count a = 0 := List.count_eq_zero_of_not_mem (by simpa using ha)
      rw [mem_bump_of_ne ha, h.mem_iff, List.count_append, hzero, Nat.add_zero]

lemma sum_bump (k : α) (m : List (α × Nat)) :
    ((bump k m).map Prod.snd).sum = (m.map Prod.snd).sum + 1 := by
  induction m with
  | nil => rfl
  | cons e m ih =>
    rw [bump]
    by_cases he : e.1 = k
    · rw [if_pos he]
      simp only [List.map_cons, List.sum_cons]
      omega
    · rw [if_neg he]
      simp only [List.map_cons, List.sum_cons, ih]
      omega

def tally (ks : List α) : List (α × Nat) := ks.foldl (fun m k => bump k m) []

lemma tally_concat (ks : List α) (k : α) : tally (ks ++ [k]) = bump k (tally ks) := by
  simp [tally]

/-- An item that is counted under at most one key. -/
lemma tally_filterMap_concat {β : Type} (f : β → Option α) (l : List β) (b : β) :
    tally ((l ++ [b]).filterMap f) =
      (f b).elim (tally (l.filterMap f)) (fun k => bump k (tally (l.filterMap f))) := by
  rw [List.filterMap_append]
  cases hk : f b with
  | some k =>
    rw [List.filterMap_cons_some hk, List.filterMap_nil, tally_concat]
    rfl
  | none =>
    rw [List.filterMap_cons_none hk, List.filterMap_nil, List.append_nil]
    rfl

theorem tally_of (ks : List α) : Of ks (tally ks) := by
  induction ks using List.reverseRecOn with
  | nil => exact Of.nil
  | append_singleton ks k ih =>
    rw [tally_concat]
    exact ih.bump k

lemma sum_tally (ks : List α) : ((tally ks).map Prod.snd).sum = ks.length := by
  induction ks using List.reverseRecOn with
  | nil => rfl
  | append_singleton ks k ih => rw [tally_concat, sum_bump, ih, List.length_append]; rfl

/-- The counts add up to the number of keys counted. -/
theorem Of.sum_eq {ks : List α} {m : List (α × Nat)} (h : Of ks m) :
    (m.map Prod.snd).sum = ks.length := by
  rw [← sum_tally ks]
  exact ((h.unique (tally_of ks)).map _).sum_eq

end Counting

section Items

variable {α β : Type}

lemma filterMap_concat (f : α → Option β) (l : List α) (a : α) :
    (l ++ [a]).filterMap f = l.filterMap f ++ (f a).toList := by
  rw [List.filterMap_append]
  cases hb : f a with
  | some b => rw [List.filterMap_cons_some hb]; rfl
  | none => rw [List.filterMap_cons_none hb]; rfl

/-- Every item either passes or is mapped. -/
lemma countP_add_length_filterMap {p : α → Bool} {f : α → Option β} {l : List α}
    (h : ∀ a ∈ l, (f a).isSome = !p a) : l.countP p + (l.filterMap f).length = l.length := by
  have hcount : l.countP (fun a => (f a).isSome) = l.countP (fun a => ¬p a) :=
    List.countP_congr (fun a ha => by rw [h a ha]; simp)
  rw [List.length_filterMap_eq_countP, hcount, ← List.length_eq_countP_add_countP]

end Items

section Sorting

variable {α : Type} (key : α → Nat)

/-- The order of the entries: most frequent first, then by key. -/
def Before (a b : α × Nat) : Prop := b.2 < a.2 ∨ a.2 = b.2 ∧ key a.1 < key b.1

def sortByCount (m : List (α × Nat)) : List (α × Nat) :=
  m.mergeSort (fun a b => decide (b.2 < a.2 ∨ a.2 = b.2 ∧ key a.1 ≤ key b.1))

variable {key}

lemma sortByCount_perm (m : List (α × Nat)) : (sortByCount key m).Perm m := List.mergeSort_perm _ _

/-- Entries with distinct keys are sorted strictly. -/
theorem sortByCount_pairwise (hkey : Function.Injective key) {m : List (α × Nat)}
    (hm : (m.map Prod.fst).Nodup) : (sortByCount key m).Pairwise (Before key) := by
  have hsorted : (sortByCount key m).Pairwise
      (fun a b => b.2 < a.2 ∨ a.2 = b.2 ∧ key a.1 ≤ key b.1) := by
    have htrans : ∀ a b c : α × Nat,
        decide (b.2 < a.2 ∨ a.2 = b.2 ∧ key a.1 ≤ key b.1) = true →
        decide (c.2 < b.2 ∨ b.2 = c.2 ∧ key b.1 ≤ key c.1) = true →
        decide (c.2 < a.2 ∨ a.2 = c.2 ∧ key a.1 ≤ key c.1) = true := by
      intro a b c hab hbc
      simp only [decide_eq_true_eq] at *
      omega
    have htotal : ∀ a b : α × Nat,
        (decide (b.2 < a.2 ∨ a.2 = b.2 ∧ key a.1 ≤ key b.1) ||
          decide (a.2 < b.2 ∨ b.2 = a.2 ∧ key b.1 ≤ key a.1)) = true := by
      intro a b
      simp only [Bool.or_eq_true, decide_eq_true_eq]
      omega
    exact (List.pairwise_mergeSort htrans htotal m).imp (fun h => of_decide_eq_true h)
  have hkeys : ((sortByCount key m).map Prod.fst).Nodup :=
    ((sortByCount_perm m).map _).nodup_iff.mpr hm
  refine (hsorted.and (List.pairwise_map.mp hkeys)).imp ?_
  rintro a b ⟨hle, hne⟩
  have hkeyne : key a.1 ≠ key b.1 := fun h => hne (hkey h)
  unfold Before
  omega

/-- The sorted entries only depend on the keys counted. -/
theorem sortByCount_eq [DecidableEq α] (hkey : Function.Injective key) {ks : List α}
    {m m' : List (α × Nat)} (h : Of ks m) (h' : Of ks m') :
    sortByCount key m = sortByCount key m' := by
  have hperm : (sortByCount key m).Perm (sortByCount key m') :=
    (sortByCount_perm m).trans ((h.unique h').trans (sortByCount_perm m').symm)
  refine hperm.eq_of_pairwise ?_ (sortByCount_pairwise hkey h.nodup)
    (sortByCount_pairwise hkey h'.nodup)
  intro a b _ _ hab hba
  unfold Before at hab hba
  omega

end Sorting

end Tally

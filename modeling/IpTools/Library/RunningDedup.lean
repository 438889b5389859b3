import Mathlib.Data.Finset.Card
import Mathlib.Data.List.Perm.Basic
import Mathlib.Data.Multiset.Basic

/-!
# Running deduplication

A loop that reports the first item of each key and skips the later ones. What it keeps is
determined, up to order, by the set of keys: the keys kept are distinct, they are all the keys
there are, and any value that depends on the key alone is kept with the same multiplicity
whatever the order of the items.
-/

namespace RunningDedup

variable {α β κ κ' γ σ : Type*} [DecidableEq κ] [DecidableEq κ']

/-- The items whose key was neither seen before the list nor earlier in it. -/
def firsts (key : α → κ) : List κ → List α → List α
  | _, [] => []
  | seen, a :: l =>
    if key a ∈ seen then firsts key seen l else a :: firsts key (seen ++ [key a]) l

lemma firsts_cons_of_mem {key : α → κ} {seen : List κ} {a : α} (h : key a ∈ seen) (l : List α) :
    firsts key seen (a :: l) = firsts key seen l := if_pos h

lemma firsts_cons_of_notMem {key : α → κ} {seen : List κ} {a : α} (h : key a ∉ seen) (l : List α) :
    firsts key seen (a :: l) = a :: firsts key (seen ++ [key a]) l := if_neg h

/-- A loop that carries its keys and its output along puts out the values of `firsts`. -/
theorem foldl_eq_firsts (key : α → κ) (val : α → β) (step : σ → α → σ) (seen : σ → List κ)
    (out : σ → List β) (hskip : ∀ s a, key a ∈ seen s → step s a = s)
    (hseen : ∀ s a, key a ∉ seen s → seen (step s a) = seen s ++ [key a])
    (hout : ∀ s a, key a ∉ seen s → out (step s a) = out s ++ [val a]) (l : List α) (s : σ) :
    out (l.foldl step s) = out s ++ (firsts key (seen s) l).map val := by
  induction l generalizing s with
  | nil => simp [firsts]
  | cons a l ih =>
    rw [List.foldl_cons, ih]
    by_cases h : key a ∈ seen s
    · rw [hskip s a h, firsts_cons_of_mem h]
    · rw [hseen s a h, hout s a h, firsts_cons_of_notMem h, List.append_assoc]
      rfl

lemma mem_of_mem_firsts {key : α → κ} {seen : List κ} {l : List α} {a : α}
    (h : a ∈ firsts key seen l) : a ∈ l ∧ key a ∉ seen := by
  induction l generalizing seen with
  | nil => simp [firsts] at h
  | cons b l ih =>
    by_cases hb : key b ∈ seen
    · rw [firsts_cons_of_mem hb] at h
      exact ⟨List.mem_cons_of_mem _ (ih h).1, (ih h).2⟩
    · rw [firsts_cons_of_notMem hb] at h
      rcases List.mem_cons.mp h with rfl | h
      · exact ⟨List.mem_cons_self, hb⟩
      · have := ih h
        refine ⟨List.mem_cons_of_mem _ this.1, fun hs => this.2 ?_⟩
        exact List.mem_append_left _ hs

/-- Every key that was not seen before the list is kept. -/
lemma exists_mem_firsts {key : α → κ} {seen : List κ} {l : List α} {a : α} (ha : a ∈ l)
    (hs : key a ∉ seen) : ∃ b ∈ firsts key seen l, key b = key a := by
  induction l generalizing seen with
  | nil => simp at ha
  | cons c l ih =>
    by_cases hc : key c ∈ seen
    · rw [firsts_cons_of_mem hc]
      rcases List.mem_cons.mp ha with rfl | ha
      · exact absurd hc hs
      · exact ih ha hs
    · rw [firsts_cons_of_notMem hc]
      by_cases hk : key c = key a
      · exact ⟨c, List.mem_cons_self, hk⟩
      · have hl : a ∈ l := by
          rcases List.mem_cons.mp ha with rfl | ha
          · exact absurd rfl hk
          · exact ha
        have hs' : key a ∉ seen ++ [key c] := by
          simp only [List.mem_append, List.mem_singleton, not_or]
          exact ⟨hs, fun he => hk he.symm⟩
        obtain ⟨b, hb, hbk⟩ := ih hl hs'
        exact ⟨b, List.mem_cons_of_mem _ hb, hbk⟩

theorem key_mem_firsts {key : α → κ} {l : List α} {k : κ} :
    k ∈ (firsts key [] l).map key ↔ k ∈ l.map key := by
  simp only [List.mem_map]
  constructor
  · rintro ⟨a, ha, rfl⟩
    exact ⟨a, (mem_of_mem_firsts ha).1, rfl⟩
  · rintro ⟨a, ha, rfl⟩
    exact exists_mem_firsts ha List.not_mem_nil

theorem nodup_keys_firsts (key : α → κ) (seen : List κ) (l : List α) :
    ((firsts key seen l).map key).Nodup := by
  induction l generalizing seen with
  | nil => simp [firsts]
  | cons a l ih =>
    by_cases h : key a ∈ seen
    · rw [firsts_cons_of_mem h]
      exact ih seen
    · rw [firsts_cons_of_notMem h, List.map_cons, List.nodup_cons]
      refine ⟨fun hm => ?_, ih _⟩
      obtain ⟨b, hb, hk⟩ := List.mem_map.mp hm
      apply (mem_of_mem_firsts hb).2
      rw [hk]
      simp

lemma nodup_firsts (key : α → κ) (seen : List κ) (l : List α) : (firsts key seen l).Nodup :=
  (nodup_keys_firsts key seen l).of_map key

lemma eq_of_mem_firsts {key : α → κ} {seen : List κ} {l : List α} {a b : α}
    (ha : a ∈ firsts key seen l) (hb : b ∈ firsts key seen l) (h : key a = key b) : a = b :=
  List.inj_on_of_nodup_map (nodup_keys_firsts key seen l) ha hb h

@[simp] lemma firsts_eq_nil_iff {key : α → κ} {l : List α} : firsts key [] l = [] ↔ l = [] := by
  cases l with
  | nil => simp [firsts]
  | cons a l => simp [firsts]

/-- As many items are kept as there are distinct keys. -/
theorem length_firsts (key : α → κ) (l : List α) :
    (firsts key [] l).length = (l.map key).toFinset.card := by
  rw [← List.length_map key, ← List.toFinset_card_of_nodup (nodup_keys_firsts key [] l)]
  congr 1
  ext k
  rw [List.mem_toFinset, List.mem_toFinset, key_mem_firsts]

theorem one_lt_length_firsts {key : α → κ} {l : List α} :
    1 < (firsts key [] l).length ↔ ∃ a ∈ l, ∃ b ∈ l, key a ≠ key b := by
  rw [length_firsts, Finset.one_lt_card]
  simp

/-- The last item is kept when its key is new. -/
theorem firsts_append_singleton (key : α → κ) (seen : List κ) (l : List α) (a : α) :
    firsts key seen (l ++ [a]) =
      firsts key seen l ++ if key a ∈ seen ∨ key a ∈ l.map key then [] else [a] := by
  induction l generalizing seen with
  | nil => by_cases h : key a ∈ seen <;> simp [firsts, h]
  | cons b l ih =>
    rw [List.cons_append]
    by_cases hb : key b ∈ seen
    · rw [firsts_cons_of_mem hb, firsts_cons_of_mem hb, ih]
      congr 2
      simp only [List.map_cons, List.mem_cons, eq_iff_iff]
      constructor
      · rintro (h | h)
        · exact Or.inl h
        · exact Or.inr (Or.inr h)
      · rintro (h | h | h)
        · exact Or.inl h
        · exact Or.inl (h ▸ hb)
        · exact Or.inr h
    · rw [firsts_cons_of_notMem hb, firsts_cons_of_notMem hb, ih, List.cons_append]
      congr 3
      simp only [List.mem_append, List.map_cons, List.mem_cons, List.not_mem_nil, or_false,
        or_assoc]

/-- Two lists with corresponding keys keep the same multiset of values, when the value of an item
is determined by its key. The order of the lists and the items that stand for a key are free. -/
theorem firsts_map_perm {key : α → κ} {key' : β → κ'} {g : κ → κ'} (hg : Function.Injective g)
    {l : List α} {l' : List β} (hkeys : ∀ k', k' ∈ l'.map key' ↔ ∃ k ∈ l.map key, g k = k')
    {f : α → γ} {f' : β → γ} (hf : ∀ a ∈ l, ∀ b ∈ l', key' b = g (key a) → f' b = f a) :
    ((firsts key' [] l').map f').Perm ((firsts key [] l).map f) := by
  have hpairs : ((firsts key' [] l').map (fun b => (key' b, f' b))).Perm
      ((firsts key [] l).map (fun a => (g (key a), f a))) := by
    rw [List.perm_ext_iff_of_nodup]
    · rintro ⟨k', v⟩
      simp only [List.mem_map, Prod.mk.injEq]
      constructor
      · rintro ⟨b, hb, rfl, rfl⟩
        have hbl := (mem_of_mem_firsts hb).1
        obtain ⟨k, hk, hgk⟩ := (hkeys (key' b)).mp (List.mem_map_of_mem hbl)
        obtain ⟨a, ha, rfl⟩ := List.mem_map.mp (key_mem_firsts.mpr hk)
        exact ⟨a, ha, hgk, (hf a (mem_of_mem_firsts ha).1 b hbl hgk.symm).symm⟩
      · rintro ⟨a, ha, rfl, rfl⟩
        have hal := (mem_of_mem_firsts ha).1
        have hk' : g (key a) ∈ l'.map key' :=
          (hkeys _).mpr ⟨key a, List.mem_map_of_mem hal, rfl⟩
        obtain ⟨b, hb, hkb⟩ := List.mem_map.mp (key_mem_firsts.mpr hk')
        exact ⟨b, hb, hkb, hf a hal b (mem_of_mem_firsts hb).1 hkb⟩
    · apply List.Nodup.of_map Prod.fst
      rw [List.map_map]
      exact nodup_keys_firsts key' [] l'
    · apply List.Nodup.of_map Prod.fst
      rw [List.map_map]
      have := (nodup_keys_firsts key [] l).map hg
      rwa [List.map_map] at this
  have := hpairs.map Prod.snd
  simpa only [List.map_map, Function.comp_def] using this

end RunningDedup

import Mathlib.Data.Bool.AllAny
import Mathlib.Data.List.Basic
import Mathlib.Tactic.Common

/-!
# Texts of a class of characters

What a text is written from decides which characters it can have.
-/

namespace CharClass

/-- All the characters of a text are of a class. -/
def All (p : Char → Prop) (s : String) : Prop := ∀ c ∈ s.toList, p c

variable {p q : Char → Prop}

-- over the characters of the text, not over all characters
instance (s : String) [DecidablePred p] : Decidable (All p s) := List.decidableBAll p s.toList

lemma All.mono {s : String} (h : All p s) (hpq : ∀ c, p c → q c) : All q s :=
  fun c hc => hpq c (h c hc)

@[simp]
lemma all_append_iff {s t : String} : All p (s ++ t) ↔ All p s ∧ All p t := by
  unfold All
  rw [String.toList_append]
  simp only [List.mem_append, or_imp, forall_and]

lemma All.append {s t : String} (hs : All p s) (ht : All p t) : All p (s ++ t) :=
  all_append_iff.mpr ⟨hs, ht⟩

@[simp]
lemma all_ofList_iff {l : List Char} : All p (String.ofList l) ↔ ∀ c ∈ l, p c := by
  rw [All, String.toList_ofList]

lemma all_flatMap {l : List Char} {f : Char → List Char} (h : ∀ c ∈ l, ∀ d ∈ f c, p d) :
    ∀ d ∈ l.flatMap f, p d := by
  intro d hd
  obtain ⟨c, hc, hd⟩ := List.mem_flatMap.mp hd
  exact h c hc d hd

lemma all_intercalate_iff {sep : String} {l : List String} (hsep : All p sep) :
    All p (sep.intercalate l) ↔ ∀ s ∈ l, All p s := by
  induction l with
  | nil =>
    exact iff_of_true (fun c hc => absurd hc List.not_mem_nil)
      (fun s hs => absurd hs List.not_mem_nil)
  | cons a l ih =>
    cases l with
    | nil => exact List.forall_mem_singleton.symm
    | cons b l =>
      rw [String.intercalate_cons_cons, all_append_iff, all_append_iff, ih,
        List.forall_mem_cons (a := a), and_iff_left hsep]

lemma all_intercalate {sep : String} {l : List String} (hsep : All p sep)
    (hl : ∀ s ∈ l, All p s) : All p (sep.intercalate l) := (all_intercalate_iff hsep).mpr hl

def IsPrintable (c : Char) : Prop := 0x20 ≤ c.toNat ∧ c.toNat ≤ 0x7e

instance : DecidablePred IsPrintable := fun c =>
  inferInstanceAs (Decidable (0x20 ≤ c.toNat ∧ c.toNat ≤ 0x7e))

lemma isPrintable_of_isAlphanum {c : Char} (h : c.isAlphanum = true) : IsPrintable c := by
  have hrange : ∀ low high : Char, 0x20 ≤ low.toNat → high.toNat ≤ 0x7e →
      c.val ≥ low.val → c.val ≤ high.val → IsPrintable c :=
    fun low high hlow hhigh hge hle => ⟨Nat.le_trans hlow hge, Nat.le_trans hle hhigh⟩
  have hcases : (c.isUpper || c.isLower || c.isDigit) = true := h
  rw [Bool.or_eq_true, Bool.or_eq_true] at hcases
  rcases hcases with (hupper | hlower) | hdigit
  · obtain ⟨hge, hle⟩ := of_decide_eq_true hupper
    exact hrange 'A' 'Z' (by decide) (by decide) hge hle
  · obtain ⟨hge, hle⟩ := Bool.and_eq_true_iff.mp hlower
    exact hrange 'a' 'z' (by decide) (by decide) (of_decide_eq_true hge) (of_decide_eq_true hle)
  · obtain ⟨hge, hle⟩ := Bool.and_eq_true_iff.mp hdigit
    exact hrange '0' '9' (by decide) (by decide) (of_decide_eq_true hge) (of_decide_eq_true hle)

lemma toNat_of_isAlphanum {c : Char} (h : c.isAlphanum = true) :
    48 ≤ c.toNat ∧ c.toNat ≤ 57 ∨ 65 ≤ c.toNat ∧ c.toNat ≤ 90 ∨ 97 ≤ c.toNat ∧ c.toNat ≤ 122 := by
  have hcases : (c.isUpper || c.isLower || c.isDigit) = true := h
  rw [Bool.or_eq_true, Bool.or_eq_true] at hcases
  rcases hcases with (hupper | hlower) | hdigit
  · obtain ⟨hge, hle⟩ := of_decide_eq_true hupper
    exact .inr (.inl ⟨hge, hle⟩)
  · obtain ⟨hge, hle⟩ := Bool.and_eq_true_iff.mp hlower
    exact .inr (.inr ⟨of_decide_eq_true hge, of_decide_eq_true hle⟩)
  · obtain ⟨hge, hle⟩ := Bool.and_eq_true_iff.mp hdigit
    exact .inl ⟨of_decide_eq_true hge, of_decide_eq_true hle⟩

lemma all_toDigits {b : Nat} (hb : 1 < b) (h : ∀ n < b, p (Nat.digitChar n)) (n : Nat) :
    ∀ c ∈ Nat.toDigits b n, p c := by
  induction n using Nat.strongRecOn with
  | ind n ih =>
    rw [Nat.toDigits_eq_if hb]
    by_cases hlt : n < b
    · rw [if_pos hlt]
      intro c hc
      rw [List.mem_singleton.mp hc]
      exact h n hlt
    · rw [if_neg hlt]
      intro c hc
      rcases List.mem_append.mp hc with hc | hc
      · exact ih (n / b) (Nat.div_lt_self (by omega) hb) c hc
      · rw [List.mem_singleton.mp hc]
        exact h (n % b) (Nat.mod_lt n (by omega))

lemma digitChar_isAlphanum {n : Nat} (h : n < 16) : (Nat.digitChar n).isAlphanum = true := by
  have hsmall : ∀ m < 16, (Nat.digitChar m).isAlphanum = true := by decide
  exact hsmall n h

/-- Numerals are alphanumeric. -/
lemma isAlphanum_of_mem_toDigits {b n : Nat} (hb : 1 < b) (hle : b ≤ 16) :
    ∀ c ∈ Nat.toDigits b n, c.isAlphanum = true :=
  all_toDigits hb (fun _ h => digitChar_isAlphanum (Nat.lt_of_lt_of_le h hle)) n

lemma all_nat (n : Nat) : All (fun c => c.isAlphanum = true) (toString n) := by
  unfold All
  rw [show (toString n).toList = Nat.toDigits 10 n from Nat.toList_repr]
  exact isAlphanum_of_mem_toDigits (by decide) (by decide)

end CharClass

import Mathlib.Tactic.Lemma

/-!
# Loops with a budget

A loop is given by the rounds of its body and runs for at most so many of them. A loop whose rounds
lower a measure ends within any budget above it, and with what its rounds compute.
-/

namespace BoundedLoop

/-- How a round of a loop ends, if it does not leave the function. -/
inductive Round (σ β : Type) where
  | next (state : σ)
  | done (result : β)

variable {σ β ε : Type}

/-- The rounds of a loop from a state, `none` where the budget ends before the loop does. A round
may itself run loops with budgets. -/
def run (body : σ → ExceptT ε Option (Round σ β)) : Nat → σ → ExceptT ε Option β
  | 0, _ => ExceptT.mk none
  | n + 1, s => do
    match ← body s with
    | .done b => return b
    | .next s' => run body n s'

/-- A computation ends within its budgets, and as another one without budgets does. -/
def Ends (x : ExceptT ε Option β) (y : Except ε β) : Prop := x = ExceptT.mk (some y)

section Ends

variable {α : Type}

lemma Ends.bind {x : ExceptT ε Option α} {y : Except ε α} {f : α → ExceptT ε Option β}
    {g : α → Except ε β} (hx : Ends x y) (hf : ∀ a, y = .ok a → Ends (f a) (g a)) :
    Ends (x >>= f) (y >>= g) := by
  unfold Ends at hx ⊢
  subst hx
  cases y with
  | error e => rfl
  | ok a => exact hf a rfl

lemma Ends.lift (y : Except ε β) : Ends (liftM y : ExceptT ε Option β) y := rfl

lemma Ends.pure (b : β) : Ends (Pure.pure b : ExceptT ε Option β) (.ok b) := rfl

lemma Ends.ite {c : Prop} [Decidable c] {x x' : ExceptT ε Option β} {y y' : Except ε β}
    (h : c → Ends x y) (h' : ¬c → Ends x' y') :
    Ends (if c then x else x') (if c then y else y') := by
  by_cases hc : c
  · rw [if_pos hc, if_pos hc]
    exact h hc
  · rw [if_neg hc, if_neg hc]
    exact h' hc

/-- What a computation in two parts ends with is what its parts end with. -/
lemma Ends.ok_of_bind {x : ExceptT ε Option α} {f : α → ExceptT ε Option β} {b : β}
    (h : Ends (x >>= f) (.ok b)) : ∃ a, Ends x (.ok a) ∧ Ends (f a) (.ok b) := by
  cases hx : x.run with
  | none =>
    obtain rfl : x = ExceptT.mk none := hx
    cases h
  | some y =>
    obtain rfl : x = ExceptT.mk (some y) := hx
    cases y with
    | error e => cases h
    | ok a => exact ⟨a, rfl, h⟩

lemma ends_bind_ok_iff {x : ExceptT ε Option α} {f : α → ExceptT ε Option β} {b : β} :
    Ends (x >>= f) (.ok b) ↔ ∃ a, Ends x (.ok a) ∧ Ends (f a) (.ok b) := by
  refine ⟨Ends.ok_of_bind, ?_⟩
  rintro ⟨a, hx, hf⟩
  exact hx.bind (g := fun _ => .ok b) (fun a' ha' => Except.ok.inj ha' ▸ hf)

lemma ends_lift_ok_iff {y : Except ε β} {b : β} :
    Ends (liftM y : ExceptT ε Option β) (.ok b) ↔ y = .ok b :=
  ⟨fun h => Option.some.inj h, fun h => h ▸ Ends.lift y⟩

lemma ends_pure_ok_iff {a b : β} : Ends (Pure.pure a : ExceptT ε Option β) (.ok b) ↔ a = b := by
  constructor
  · intro h
    exact Except.ok.inj (Option.some.inj h)
  · rintro rfl
    exact Ends.pure a

lemma not_ends_none {y : Except ε β} : ¬Ends (ExceptT.mk none) y := fun h => by cases h

lemma ok_lift_bind (a : α) (f : α → ExceptT ε Option β) :
    ((liftM (.ok a : Except ε α) : ExceptT ε Option α) >>= f) = f a := rfl

end Ends

/-- A round agrees with what the loop has to end with: it ends with it, or it leaves it to a state
of a lower measure. -/
inductive Agrees (f : σ → Except ε β) (measure : σ → Nat) (bound : Nat) :
    Except ε β → Except ε (Round σ β) → Prop where
  | error (e : ε) : Agrees f measure bound (.error e) (.error e)
  | done (b : β) : Agrees f measure bound (.ok b) (.ok (.done b))
  | next (s : σ) (h : measure s < bound) : Agrees f measure bound (f s) (.ok (.next s))

/-- The rounds of a loop compute a function. -/
def Computes (body : σ → ExceptT ε Option (Round σ β)) (f : σ → Except ε β) (measure : σ → Nat) :
    Prop :=
  ∀ s, ∃ round, Ends (body s) round ∧ Agrees f measure (measure s) (f s) round

theorem Computes.ends {body : σ → ExceptT ε Option (Round σ β)} {f : σ → Except ε β}
    {measure : σ → Nat} (h : Computes body f measure) {n : Nat} {s : σ} (hlt : measure s < n) :
    Ends (run body n s) (f s) := by
  induction n generalizing s with
  | zero => exact absurd hlt (Nat.not_lt_zero _)
  | succ n ih =>
    obtain ⟨round, hround, hagrees⟩ := h s
    rw [run, hround]
    generalize f s = value at hagrees ⊢
    cases hagrees with
    | error e => rfl
    | done b => rfl
    | next s' hlower => exact ih (Nat.lt_of_lt_of_le hlower (Nat.le_of_lt_succ hlt))

end BoundedLoop

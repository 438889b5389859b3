import Mathlib.Data.List.Basic
import Mathlib.Tactic.Common

/-!
# Reads of a buffer

A computation that reads cells of a buffer, where each place may depend on what was read before.
Running it tells its result and the places that it reads, in their order.
-/

/-- A computation that reads cells. -/
inductive Reads (β α : Type) where
  | done (a : α)
  | read (i : Nat) (next : β → Reads β α)

namespace Reads

variable {α β γ : Type}

def bind : Reads β α → (α → Reads β γ) → Reads β γ
  | done a, f => f a
  | read i next, f => read i (fun b => (next b).bind f)

instance : Monad (Reads β) where
  pure := done
  bind := bind

/-- The cell at a place. -/
def cell (i : Nat) : Reads β β := read i done

/-- The result, `none` where a place is past the end of the buffer. -/
def run (buf : List β) : Reads β α → Option α
  | done a => some a
  | read i next => buf[i]?.bind (fun b => (next b).run buf)

/-- The places read, up to the one that is past the end of the buffer. -/
def places (buf : List β) : Reads β α → List Nat
  | done _ => []
  | read i next => i :: (buf[i]?.elim [] (fun b => (next b).places buf))

/-- The computation comes to a result, and every place that it reads is below `n`. -/
structure Within (buf : List β) (n : Nat) (m : Reads β α) (a : α) : Prop where
  run : m.run buf = some a
  places : ∀ i ∈ m.places buf, i < n

variable {buf : List β} {n : Nat}

lemma Within.pure (a : α) : Within buf n (Pure.pure a : Reads β α) a :=
  ⟨rfl, fun _ h => by cases h⟩

lemma Within.cell_bind {i : Nat} {b : β} {f : β → Reads β α} {a : α} (hi : i < n)
    (hb : buf[i]? = some b) (h : Within buf n (f b) a) : Within buf n (cell i >>= f) a := by
  have hrun : (cell i >>= f).run buf = (f b).run buf := by
    change buf[i]?.bind (fun b => (f b).run buf) = _
    rw [hb]
    rfl
  have hplaces : (cell i >>= f).places buf = i :: (f b).places buf := by
    change i :: buf[i]?.elim [] (fun b => (f b).places buf) = _
    rw [hb]
    rfl
  refine ⟨hrun.trans h.run, ?_⟩
  rw [hplaces]
  exact List.forall_mem_cons.mpr ⟨hi, h.places⟩

/-- The computation stays below `n`, and its result meets a postcondition. -/
def Meets (buf : List β) (n : Nat) (m : Reads β α) (post : α → Prop) : Prop :=
  ∃ a, Within buf n m a ∧ post a

variable {post : α → Prop}

lemma Meets.pure {a : α} (h : post a) : Meets buf n (Pure.pure a : Reads β α) post :=
  ⟨a, Within.pure a, h⟩

lemma Meets.cell_bind {i : Nat} {b : β} {f : β → Reads β α} (hi : i < n) (hb : buf[i]? = some b)
    (h : Meets buf n (f b) post) : Meets buf n (cell i >>= f) post := by
  obtain ⟨a, hwithin, ha⟩ := h
  exact ⟨a, hwithin.cell_bind hi hb, ha⟩

lemma Meets.ite {c : Prop} [Decidable c] {m m' : Reads β α} (hpos : c → Meets buf n m post)
    (hneg : ¬c → Meets buf n m' post) : Meets buf n (if c then m else m') post := by
  by_cases hc : c
  · rw [if_pos hc]
    exact hpos hc
  · rw [if_neg hc]
    exact hneg hc

end Reads

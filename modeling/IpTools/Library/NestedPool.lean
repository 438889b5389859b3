import IpTools.Library.TaskPool
import Mathlib.Algebra.BigOperators.Group.Finset.Basic
import Mathlib.Logic.Function.Basic

/-!
# Maps within the tasks of a map

One call runs over a pool of its own. Its tasks call maps over a second pool that they all share,
one after the other, and hold no permit of that pool themselves.
-/

namespace TaskPool

open Relation

variable {ι κ σ : Type}

/-- What an outer task has still to do: the items of its calls to come, and the call it waits
for. -/
structure Frame (κ : Type) where
  rest : List (List κ)
  call : Option Nat

/-- The two pools and the frame of the task at each position of the outer one. -/
structure Nest (ι κ σ : Type) where
  outer : Pool ι Unit
  inner : Pool κ σ
  frame : Nat → Frame κ

def Nest.start (outerLimit innerLimit : Nat) (items : List ι) (stages : ι → List (List κ)) :
    Nest ι κ σ where
  outer := (Pool.start outerLimit).openCall items
  inner := Pool.start innerLimit
  frame k := ⟨(items[k]?.map stages).getD [], none⟩

/-- The result of an outer task is of no concern here. -/
def ended : ι → Unit := fun _ => ()

inductive Event where
  | inner (l : Label)
  | outer (l : Label)
  | call
  | returned
deriving DecidableEq

def Event.IsPanic (e : Event) : Prop := e = .inner .panic ∨ e = .outer .panic

inductive NestStep (f : κ → σ) : Event → Nest ι κ σ → Nest ι κ σ → Prop
  | inner {l : Label} {k : Nat} {s : Nest ι κ σ} {inner : Pool κ σ}
      (h : Move f l k s.inner inner) : NestStep f (.inner l) s { s with inner := inner }
  | outer {l : Label} {k : Nat} {s : Nest ι κ σ} {outer : Pool ι Unit}
      (h : Move ended l k s.outer outer) (hfinish : l ≠ .finish) (hpanic : l ≠ .panic) :
      NestStep f (.outer l) s { s with outer := outer }
  | call {k : Nat} {s : Nest ι κ σ} {c : Cell ι Unit} {items : List κ} {rest : List (List κ)}
      (hk : s.outer.cells[k]? = some c) (hphase : c.phase = .running)
      (hframe : s.frame k = ⟨items :: rest, none⟩) :
      NestStep f .call s
        { s with
          inner := s.inner.openCall items
          frame := Function.update s.frame k ⟨rest, some s.inner.calls⟩ }
  | returned {k n : Nat} {s : Nest ι κ σ} {c : Cell ι Unit} {rest : List (List κ)}
      (hk : s.outer.cells[k]? = some c) (hphase : c.phase = .running)
      (hframe : s.frame k = ⟨rest, some n⟩)
      (hjoined : ∀ d ∈ s.inner.cells, d.call = n → d.phase.isJoined = true) :
      NestStep f .returned s { s with frame := Function.update s.frame k ⟨rest, none⟩ }
  | finish {k : Nat} {s : Nest ι κ σ} {outer : Pool ι Unit} (hframe : s.frame k = ⟨[], none⟩)
      (h : Move ended .finish k s.outer outer) :
      NestStep f (.outer .finish) s { s with outer := outer }
  | panic {k : Nat} {s : Nest ι κ σ} {outer : Pool ι Unit} (hframe : (s.frame k).call = none)
      (h : Move ended .panic k s.outer outer) :
      NestStep f (.outer .panic) s { s with outer := outer }

/-- The states of all runs of a nested map. -/
def Nest.Reachable (f : κ → σ) (outerLimit innerLimit : Nat) (items : List ι)
    (stages : ι → List (List κ)) : Nest ι κ σ → Prop :=
  ReflTransGen (fun s s' => ∃ e, NestStep f e s s')
    (Nest.start outerLimit innerLimit items stages)

def Nest.Unfinished (s : Nest ι κ σ) : Prop :=
  (∃ c ∈ s.outer.cells, c.phase.isJoined = false) ∨
    ∃ c ∈ s.inner.cells, c.phase.isJoined = false

variable {f : κ → σ} {outerLimit innerLimit : Nat} {items : List ι} {stages : ι → List (List κ)}
  {s s' : Nest ι κ σ}

lemma NestStep.outer_pool {e : Event} (h : NestStep f e s s') :
    s'.outer = s.outer ∨ Step ended s.outer s'.outer := by
  cases h with
  | inner | call | returned => exact .inl rfl
  | outer h | finish _ h | panic _ h => exact .inr (.move h)

lemma NestStep.inner_pool {e : Event} (h : NestStep f e s s') :
    s'.inner = s.inner ∨ Step f s.inner s'.inner := by
  cases h with
  | inner h => exact .inr (.move h)
  | call => exact .inr (.openCall _ _)
  | outer | returned | finish | panic => exact .inl rfl

/-- The outer pool goes through states it can be in alone. -/
theorem Nest.Reachable.outer (h : Nest.Reachable f outerLimit innerLimit items stages s) :
    TaskPool.Reachable ended outerLimit s.outer := by
  induction h with
  | refl => exact .single (.openCall _ _)
  | tail _ hstep ih =>
    obtain ⟨e, hstep⟩ := hstep
    rcases hstep.outer_pool with heq | hstep
    · rwa [heq]
    · exact ih.tail hstep

/-- The inner pool does, too. -/
theorem Nest.Reachable.inner (h : Nest.Reachable f outerLimit innerLimit items stages s) :
    TaskPool.Reachable f innerLimit s.inner := by
  induction h with
  | refl => exact .refl
  | tail _ hstep ih =>
    obtain ⟨e, hstep⟩ := hstep
    rcases hstep.inner_pool with heq | hstep
    · rwa [heq]
    · exact ih.tail hstep

/-- An outer task that runs can go on where the inner pool has nothing left. -/
lemma exists_step_of_running {k : Nat} {c : Cell ι Unit} (hk : s.outer.cells[k]? = some c)
    (hphase : c.phase = .running) (hjoined : ∀ d ∈ s.inner.cells, d.phase.isJoined = true) :
    ∃ e s', NestStep f e s s' ∧ ¬e.IsPanic := by
  cases hframe : s.frame k with
  | mk rest call =>
    cases call with
    | some n =>
      exact ⟨_, _, .returned hk hphase hframe (fun d hd _ => hjoined d hd), by
        simp [Event.IsPanic]⟩
    | none =>
      cases rest with
      | nil => exact ⟨_, _, .finish hframe (.finish hk hphase), by simp [Event.IsPanic]⟩
      | cons items rest => exact ⟨_, _, .call hk hphase hframe, by simp [Event.IsPanic]⟩

/-- In no state with items left is every task blocked: inner tasks wait for no outer task. -/
theorem Nest.Reachable.exists_step
    (h : Nest.Reachable f outerLimit innerLimit items stages s) (houter : 0 < outerLimit)
    (hinner : 0 < innerLimit) (hunfinished : s.Unfinished) :
    ∃ e s', NestStep f e s s' ∧ ¬e.IsPanic := by
  by_cases hleft : ∃ c ∈ s.inner.cells, c.phase.isJoined = false
  · obtain ⟨l, k, inner, hmove, hl⟩ := h.inner.inv.exists_move hinner hleft
    exact ⟨_, _, .inner hmove, by simp [Event.IsPanic, hl]⟩
  · have hjoined : ∀ d ∈ s.inner.cells, d.phase.isJoined = true :=
      fun d hd => by simpa using fun hd' => hleft ⟨d, hd, hd'⟩
    have hleft' := hunfinished.resolve_right hleft
    rcases h.outer.inv.progress houter hleft' with ⟨k, c, hk, hphase⟩ | ⟨l, k, s', hmove, hl, hl'⟩
    · exact exists_step_of_running hk hphase hjoined
    · exact ⟨_, _, .outer hmove hl hl', by simp [Event.IsPanic, hl']⟩

/-- The steps a frame is worth: each call is made and returns, and its items are joined. -/
def Frame.rank (frame : Frame κ) : Nat :=
  (frame.rest.map (fun items => 7 * items.length + 2)).sum + frame.call.isSome.toNat

def Nest.rank (s : Nest ι κ σ) : Nat :=
  s.outer.rank + s.inner.rank + ∑ k ∈ Finset.range s.outer.cells.length, (s.frame k).rank

lemma rank_openCall {τ : Type} (s : Pool ι τ) (items : List ι) :
    (s.openCall items).rank = s.rank + 7 * items.length := by
  have hnew : (items.map (newCell (τ := τ) s.calls)).map (fun c => c.phase.rank) =
      List.replicate items.length 7 := by
    rw [List.map_map]
    exact List.map_const'
  unfold Pool.openCall Pool.rank
  dsimp only
  rw [List.map_append, List.sum_append_nat, hnew, List.sum_replicate_nat, Nat.mul_comm]

lemma Move.length_cells {τ : Type} {g : ι → τ} {l : Label} {k : Nat} {s s' : Pool ι τ}
    (h : Move g l k s s') : s'.cells.length = s.cells.length := by
  have hmap := congrArg List.length h.map_item
  rwa [List.length_map, List.length_map] at hmap

/-- Another frame at one position changes the sum there only. -/
lemma sum_rank_update (frame : Nat → Frame κ) {k n : Nat} (hk : k < n) (b : Frame κ) :
    (∑ j ∈ Finset.range n, (Function.update frame k b j).rank) + (frame k).rank =
      (∑ j ∈ Finset.range n, (frame j).rank) + b.rank := by
  have hmem : k ∈ Finset.range n := Finset.mem_range.mpr hk
  rw [← Finset.sum_erase_add _ _ hmem, ← Finset.sum_erase_add _ (fun j => (frame j).rank) hmem,
    Function.update_self]
  have hrest : ∑ j ∈ (Finset.range n).erase k, (Function.update frame k b j).rank =
      ∑ j ∈ (Finset.range n).erase k, (frame j).rank :=
    Finset.sum_congr rfl (fun j hj => by rw [Function.update_of_ne (Finset.ne_of_mem_erase hj)])
  rw [hrest]
  omega

/-- Every step is one step less: all runs end. -/
theorem NestStep.rank {e : Event} (h : NestStep f e s s') : s'.rank + 1 = s.rank := by
  unfold Nest.rank
  cases h with
  | inner h =>
    have hrank := h.rank
    dsimp only
    omega
  | outer h | finish _ h | panic _ h =>
    have hrank := h.rank
    dsimp only
    rw [h.length_cells]
    omega
  | @call k s c items rest hk hphase hframe =>
    have hlt := (List.getElem?_eq_some_iff.mp hk).1
    have hsum := sum_rank_update s.frame hlt ⟨rest, some s.inner.calls⟩
    rw [hframe] at hsum
    simp only [Frame.rank, List.map_cons, List.sum_cons, Option.isSome_some, Option.isSome_none,
      Bool.toNat_true, Bool.toNat_false] at hsum ⊢
    rw [rank_openCall]
    omega
  | @returned k n s c rest hk hphase hframe hjoined =>
    have hlt := (List.getElem?_eq_some_iff.mp hk).1
    have hsum := sum_rank_update s.frame hlt ⟨rest, none⟩
    rw [hframe] at hsum
    simp only [Frame.rank, Option.isSome_some, Option.isSome_none, Bool.toNat_true,
      Bool.toNat_false] at hsum ⊢
    omega

/-- A run that goes on as long as it can ends with nothing left. -/
theorem Nest.Reachable.exists_finished {s : Nest ι κ σ}
    (h : Nest.Reachable f outerLimit innerLimit items stages s) (houter : 0 < outerLimit)
    (hinner : 0 < innerLimit) :
    ∃ s', ReflTransGen (fun s s' => ∃ e, NestStep f e s s' ∧ ¬e.IsPanic) s s' ∧
      ¬s'.Unfinished := by
  by_cases hunfinished : s.Unfinished
  · obtain ⟨e, next, hstep, he⟩ := h.exists_step houter hinner hunfinished
    have hrank := hstep.rank
    obtain ⟨s', hrun, hs'⟩ :=
      Nest.Reachable.exists_finished (h.tail ⟨e, hstep⟩) houter hinner
    exact ⟨s', hrun.head ⟨e, hstep, he⟩, hs'⟩
  · exact ⟨s, .refl, hunfinished⟩
termination_by s.rank
decreasing_by omega

end TaskPool

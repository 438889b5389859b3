import Mathlib.Algebra.BigOperators.Group.List.Basic
import Mathlib.Algebra.Ring.Nat
import Mathlib.Data.List.Nodup
import Mathlib.Data.List.Perm.Basic
import Mathlib.Data.Nat.Find
import Mathlib.Logic.Relation
import Mathlib.Tactic.Common

/-!
# Maps over a pool of permits

Calls map a function over lists of items. A call takes the items in order: it acquires a permit
from a fair semaphore that all calls share, spawns a task that owns the permit, and after the last
item joins its tasks as they end. The steps of all calls and tasks interleave in any way. A task
that panics gives its permit back, too, and is dropped from the output.
-/

namespace TaskPool

variable {ι τ : Type}

/-- How far an item is. What a task ends with is `none` where it panicked. -/
inductive Phase (τ : Type) where
  | pending
  | queued
  | granted
  | spawned
  | running
  | ended (r : Option τ)
  | released (r : Option τ)
  | joined (r : Option τ)
deriving DecidableEq

def Phase.holds : Phase τ → Bool
  | .granted | .spawned | .running | .ended _ => true
  | _ => false

/-- Whether the function was called on the item. -/
def Phase.started : Phase τ → Bool
  | .running | .ended _ | .released _ | .joined _ => true
  | _ => false

/-- Whether the loop of the call is past the item. -/
def Phase.passed : Phase τ → Bool
  | .pending | .queued | .granted => false
  | _ => true

def Phase.isRunning : Phase τ → Bool
  | .running => true
  | _ => false

def Phase.isJoined : Phase τ → Bool
  | .joined _ => true
  | _ => false

/-- What the task of the item ended with. -/
def Phase.result : Phase τ → Option τ
  | .ended r | .released r | .joined r => r
  | _ => none

/-- What the item has put into the output of its call. -/
def Phase.output : Phase τ → Option τ
  | .joined r => r
  | _ => none

/-- The steps an item is away from being joined. -/
def Phase.rank : Phase τ → Nat
  | .pending => 7
  | .queued => 6
  | .granted => 5
  | .spawned => 4
  | .running => 3
  | .ended _ => 2
  | .released _ => 1
  | .joined _ => 0

/-- An item of a call. `starts` counts the calls of the function on it. -/
structure Cell (ι τ : Type) where
  call : Nat
  item : ι
  phase : Phase τ
  starts : Nat

/-- The semaphore with the queue of those who wait for it, the items of all calls and the output
in the order of joining. -/
structure Pool (ι τ : Type) where
  free : Nat
  queue : List Nat
  cells : List (Cell ι τ)
  calls : Nat
  out : List (Nat × τ)

def Pool.start (limit : Nat) : Pool ι τ := ⟨limit, [], [], 0, []⟩

def newCell (call : Nat) (item : ι) : Cell ι τ := ⟨call, item, .pending, 0⟩

def Pool.openCall (s : Pool ι τ) (items : List ι) : Pool ι τ :=
  { s with cells := s.cells ++ items.map (newCell s.calls), calls := s.calls + 1 }

def Pool.held (s : Pool ι τ) : Nat := s.cells.countP (fun c => c.phase.holds)

def Pool.inFlight (s : Pool ι τ) : Nat := s.cells.countP (fun c => c.phase.isRunning)

/-- Whether the loop of a call is past its items before a position. -/
def Pool.PassedBefore (s : Pool ι τ) (call k : Nat) : Prop :=
  ∀ j < k, ∀ d, s.cells[j]? = some d → d.call = call → d.phase.passed = true

/-- The steps of a pool, at the position of an item. -/
inductive Label where
  | request
  | grant
  | spawn
  | start
  | finish
  | panic
  | release
  | join
deriving DecidableEq

inductive Move (f : ι → τ) : Label → Nat → Pool ι τ → Pool ι τ → Prop
  | request {s : Pool ι τ} {k : Nat} {c : Cell ι τ} (hk : s.cells[k]? = some c)
      (hphase : c.phase = .pending) (hpassed : s.PassedBefore c.call k) :
      Move f .request k s
        { s with cells := s.cells.set k { c with phase := .queued }, queue := s.queue ++ [k] }
  | grant {s : Pool ι τ} {k : Nat} {c : Cell ι τ} {queue : List Nat} (hk : s.cells[k]? = some c)
      (hphase : c.phase = .queued) (hqueue : s.queue = k :: queue) (hfree : 0 < s.free) :
      Move f .grant k s
        { s with
          cells := s.cells.set k { c with phase := .granted }
          queue := queue
          free := s.free - 1 }
  | spawn {s : Pool ι τ} {k : Nat} {c : Cell ι τ} (hk : s.cells[k]? = some c)
      (hphase : c.phase = .granted) :
      Move f .spawn k s { s with cells := s.cells.set k { c with phase := .spawned } }
  | start {s : Pool ι τ} {k : Nat} {c : Cell ι τ} (hk : s.cells[k]? = some c)
      (hphase : c.phase = .spawned) :
      Move f .start k s
        { s with cells := s.cells.set k { c with phase := .running, starts := c.starts + 1 } }
  | finish {s : Pool ι τ} {k : Nat} {c : Cell ι τ} (hk : s.cells[k]? = some c)
      (hphase : c.phase = .running) :
      Move f .finish k s
        { s with cells := s.cells.set k { c with phase := .ended (some (f c.item)) } }
  | panic {s : Pool ι τ} {k : Nat} {c : Cell ι τ} (hk : s.cells[k]? = some c)
      (hphase : c.phase = .running) :
      Move f .panic k s { s with cells := s.cells.set k { c with phase := .ended none } }
  | release {s : Pool ι τ} {k : Nat} {c : Cell ι τ} {r : Option τ} (hk : s.cells[k]? = some c)
      (hphase : c.phase = .ended r) :
      Move f .release k s
        { s with cells := s.cells.set k { c with phase := .released r }, free := s.free + 1 }
  | join {s : Pool ι τ} {k : Nat} {c : Cell ι τ} {r : Option τ} (hk : s.cells[k]? = some c)
      (hphase : c.phase = .released r) (hpassed : s.PassedBefore c.call s.cells.length) :
      Move f .join k s
        { s with
          cells := s.cells.set k { c with phase := .joined r }
          out := s.out ++ (r.map (fun value => (c.call, value))).toList }

/-- A step: of a call that was begun, or the beginning of a call. -/
inductive Step (f : ι → τ) : Pool ι τ → Pool ι τ → Prop
  | move {l : Label} {k : Nat} {s s' : Pool ι τ} (h : Move f l k s s') : Step f s s'
  | openCall (s : Pool ι τ) (items : List ι) : Step f s (s.openCall items)

def Reachable (f : ι → τ) (limit : Nat) : Pool ι τ → Prop :=
  Relation.ReflTransGen (Step f) (Pool.start limit)

def permit (phase : Phase τ) : Nat := if phase.holds then 1 else 0

def startCount (phase : Phase τ) : Nat := if phase.started then 1 else 0

def Cell.output (c : Cell ι τ) : Option (Nat × τ) := c.phase.output.map (fun value => (c.call, value))

/-- What a step does: it takes one item a phase on. -/
structure Changed (f : ι → τ) (k : Nat) (s s' : Pool ι τ) (c c' : Cell ι τ) : Prop where
  cell : s.cells[k]? = some c
  cells : s'.cells = s.cells.set k c'
  calls : s'.calls = s.calls
  call : c'.call = c.call
  item : c'.item = c.item
  rank : c'.phase.rank + 1 = c.phase.rank
  permits : s'.free + permit c'.phase = s.free + permit c.phase
  starts : c.starts = startCount c.phase → c'.starts = startCount c'.phase
  result : (∀ r, c.phase.result = some r → r = f c.item) →
    ∀ r, c'.phase.result = some r → r = f c'.item
  unread : c.phase.output = none
  out : s'.out = s.out ++ c'.output.toList
  queue : (c.phase ≠ .queued ∧ c'.phase ≠ .queued ∧ s'.queue = s.queue) ∨
    (c.phase ≠ .queued ∧ c'.phase = .queued ∧ s'.queue = s.queue ++ [k]) ∨
    (c.phase = .queued ∧ c'.phase ≠ .queued ∧ s.queue = k :: s'.queue)

theorem Move.changed {f : ι → τ} {l : Label} {k : Nat} {s s' : Pool ι τ} (h : Move f l k s s') :
    ∃ c c', Changed f k s s' c c' := by
  cases h with
  | @request s k c hk hphase hpassed =>
    obtain ⟨call, item, phase, starts⟩ := c
    cases hphase
    exact ⟨_, _, {
      cell := hk, cells := rfl, calls := rfl, call := rfl, item := rfl, rank := rfl,
      permits := rfl, starts := id, result := fun _ => by simp [Phase.result], unread := rfl,
      out := by simp [Cell.output, Phase.output], queue := .inr (.inl ⟨by simp, rfl, rfl⟩) }⟩
  | @grant s k c queue hk hphase hqueue hfree =>
    obtain ⟨call, item, phase, starts⟩ := c
    cases hphase
    exact ⟨_, _, {
      cell := hk, cells := rfl, calls := rfl, call := rfl, item := rfl, rank := rfl,
      permits := Nat.sub_add_cancel hfree, starts := id,
      result := fun _ => by simp [Phase.result], unread := rfl,
      out := by simp [Cell.output, Phase.output],
      queue := .inr (.inr ⟨rfl, by simp, hqueue⟩) }⟩
  | @spawn s k c hk hphase =>
    obtain ⟨call, item, phase, starts⟩ := c
    cases hphase
    exact ⟨_, _, {
      cell := hk, cells := rfl, calls := rfl, call := rfl, item := rfl, rank := rfl,
      permits := rfl, starts := id, result := fun _ => by simp [Phase.result], unread := rfl,
      out := by simp [Cell.output, Phase.output], queue := .inl ⟨by simp, by simp, rfl⟩ }⟩
  | @start s k c hk hphase =>
    obtain ⟨call, item, phase, starts⟩ := c
    cases hphase
    exact ⟨_, _, {
      cell := hk, cells := rfl, calls := rfl, call := rfl, item := rfl, rank := rfl,
      permits := rfl, starts := congrArg (· + 1), result := fun _ => by simp [Phase.result],
      unread := rfl, out := by simp [Cell.output, Phase.output],
      queue := .inl ⟨by simp, by simp, rfl⟩ }⟩
  | @finish s k c hk hphase =>
    obtain ⟨call, item, phase, starts⟩ := c
    cases hphase
    exact ⟨_, _, {
      cell := hk, cells := rfl, calls := rfl, call := rfl, item := rfl, rank := rfl,
      permits := rfl, starts := id, result := fun _ => by simp [Phase.result], unread := rfl,
      out := by simp [Cell.output, Phase.output], queue := .inl ⟨by simp, by simp, rfl⟩ }⟩
  | @panic s k c hk hphase =>
    obtain ⟨call, item, phase, starts⟩ := c
    cases hphase
    exact ⟨_, _, {
      cell := hk, cells := rfl, calls := rfl, call := rfl, item := rfl, rank := rfl,
      permits := rfl, starts := id, result := fun _ => by simp [Phase.result], unread := rfl,
      out := by simp [Cell.output, Phase.output], queue := .inl ⟨by simp, by simp, rfl⟩ }⟩
  | @release s k c r hk hphase =>
    obtain ⟨call, item, phase, starts⟩ := c
    cases hphase
    exact ⟨_, _, {
      cell := hk, cells := rfl, calls := rfl, call := rfl, item := rfl, rank := rfl,
      permits := rfl, starts := id, result := id, unread := rfl,
      out := by simp [Cell.output, Phase.output], queue := .inl ⟨by simp, by simp, rfl⟩ }⟩
  | @join s k c r hk hphase hpassed =>
    obtain ⟨call, item, phase, starts⟩ := c
    cases hphase
    exact ⟨_, _, {
      cell := hk, cells := rfl, calls := rfl, call := rfl, item := rfl, rank := rfl,
      permits := rfl, starts := id, result := id, unread := rfl, out := rfl,
      queue := .inl ⟨by simp, by simp, rfl⟩ }⟩

/-- What holds in every reachable state. -/
structure Inv (f : ι → τ) (limit : Nat) (s : Pool ι τ) : Prop where
  permits : s.free + s.held = limit
  queue_nodup : s.queue.Nodup
  mem_queue : ∀ k, k ∈ s.queue ↔ ∃ c, s.cells[k]? = some c ∧ c.phase = .queued
  starts : ∀ c ∈ s.cells, c.starts = startCount c.phase
  result : ∀ c ∈ s.cells, ∀ r, c.phase.result = some r → r = f c.item
  out : s.out.Perm (s.cells.filterMap Cell.output)

lemma Inv.start (f : ι → τ) (limit : Nat) : Inv f limit (Pool.start limit : Pool ι τ) where
  permits := rfl
  queue_nodup := List.nodup_nil
  mem_queue := by simp [Pool.start]
  starts := by simp [Pool.start]
  result := by simp [Pool.start]
  out := .refl _

/-! A call opens with its items pending: none of them holds a permit, is queued, was started or has
a result. -/

lemma mem_newCells {call : Nat} {items : List ι} {c : Cell ι τ}
    (hc : c ∈ items.map (newCell call)) : c.phase = .pending ∧ c.starts = 0 := by
  obtain ⟨item, -, rfl⟩ := List.mem_map.mp hc
  exact ⟨rfl, rfl⟩

lemma held_openCall (s : Pool ι τ) (items : List ι) : (s.openCall items).held = s.held := by
  have hzero : (items.map (newCell (τ := τ) s.calls)).countP (fun c => c.phase.holds) = 0 := by
    rw [List.countP_eq_zero]
    intro c hc
    rw [(mem_newCells hc).1]
    exact Bool.false_ne_true
  unfold Pool.held Pool.openCall
  dsimp only
  rw [List.countP_append, hzero, Nat.add_zero]

lemma outputs_openCall (s : Pool ι τ) (items : List ι) :
    (s.openCall items).cells.filterMap Cell.output = s.cells.filterMap Cell.output := by
  have hnone : (items.map (newCell (τ := τ) s.calls)).filterMap Cell.output = [] := by
    rw [List.filterMap_eq_nil_iff]
    intro c hc
    unfold Cell.output
    rw [(mem_newCells hc).1]
    rfl
  unfold Pool.openCall
  dsimp only
  rw [List.filterMap_append, hnone, List.append_nil]

lemma queued_openCall (s : Pool ι τ) (items : List ι) (k : Nat) :
    (∃ c, (s.openCall items).cells[k]? = some c ∧ c.phase = .queued) ↔
      ∃ c, s.cells[k]? = some c ∧ c.phase = .queued := by
  unfold Pool.openCall
  dsimp only
  by_cases hlt : k < s.cells.length
  · rw [List.getElem?_append_left hlt]
  · have hnone : s.cells[k]? = none := List.getElem?_eq_none (Nat.le_of_not_lt hlt)
    rw [List.getElem?_append_right (Nat.le_of_not_lt hlt), hnone]
    refine iff_of_false ?_ (by simp)
    rintro ⟨c, hk, hphase⟩
    rw [(mem_newCells (List.mem_of_getElem? hk)).1] at hphase
    cases hphase

lemma Inv.openCall {f : ι → τ} {limit : Nat} {s : Pool ι τ} (h : Inv f limit s)
    (items : List ι) : Inv f limit (s.openCall items) := by
  constructor
  case permits =>
    rw [held_openCall]
    exact h.permits
  case queue_nodup => exact h.queue_nodup
  case mem_queue =>
    intro k
    rw [queued_openCall]
    exact h.mem_queue k
  case starts =>
    intro c hc
    rcases List.mem_append.mp hc with hc | hc
    · exact h.starts c hc
    · rw [(mem_newCells hc).1, (mem_newCells hc).2]
      rfl
  case result =>
    intro c hc r hr
    rcases List.mem_append.mp hc with hc | hc
    · exact h.result c hc r hr
    · rw [(mem_newCells hc).1] at hr
      exact absurd hr (by simp [Phase.result])
  case out =>
    rw [outputs_openCall]
    exact h.out

section Update

variable {α β : Type*} {cells : List α} {k : Nat} {a b : α}

lemma set_eq (h : cells[k]? = some a) :
    cells = cells.take k ++ a :: cells.drop (k + 1) ∧
      cells.set k b = cells.take k ++ b :: cells.drop (k + 1) := by
  obtain ⟨hlt, rfl⟩ := List.getElem?_eq_some_iff.mp h
  constructor
  · rw [List.getElem_cons_drop, List.take_append_drop]
  · rw [List.set_eq_take_append_cons_drop, if_pos hlt]

lemma countP_set_add (p : α → Bool) (h : cells[k]? = some a) :
    (cells.set k b).countP p + (if p a then 1 else 0) =
      cells.countP p + (if p b then 1 else 0) := by
  obtain ⟨hcells, hset⟩ := set_eq (b := b) h
  rw [hset]
  conv => rhs; rw [hcells]
  simp only [List.countP_append, List.countP_cons]
  omega

lemma filterMap_set_perm (g : α → Option β) (h : cells[k]? = some a) (ha : g a = none) :
    ((cells.set k b).filterMap g).Perm (cells.filterMap g ++ (g b).toList) := by
  obtain ⟨hcells, hset⟩ := set_eq (b := b) h
  rw [hset]
  conv => rhs; rw [hcells]
  rw [List.filterMap_append, List.filterMap_append, List.filterMap_cons_none ha]
  cases hb : g b with
  | none => rw [List.filterMap_cons_none hb, Option.toList_none, List.append_nil]
  | some x =>
    rw [List.filterMap_cons_some hb, Option.toList_some]
    exact List.perm_middle.trans (List.perm_append_singleton _ _).symm

lemma mem_set_cases {c : α} (h : c ∈ cells.set k b) : c = b ∨ c ∈ cells :=
  (List.mem_or_eq_of_mem_set h).symm

end Update

section Changed

variable {f : ι → τ} {limit k : Nat} {s s' : Pool ι τ} {c c' : Cell ι τ}

lemma Changed.getElem? (hc : Changed f k s s' c c') (j : Nat) :
    s'.cells[j]? = if k = j then some c' else s.cells[j]? := by
  have hlt : k < s.cells.length := (List.getElem?_eq_some_iff.mp hc.cell).1
  rw [hc.cells, List.getElem?_set]
  simp only [hlt, if_true]

lemma Changed.mem_cells (hc : Changed f k s s' c c') {d : Cell ι τ} (hd : d ∈ s'.cells) :
    d = c' ∨ d ∈ s.cells := by
  rw [hc.cells] at hd
  exact mem_set_cases hd

lemma Changed.held (hc : Changed f k s s' c c') :
    s'.held + permit c.phase = s.held + permit c'.phase := by
  unfold Pool.held permit
  rw [hc.cells]
  exact countP_set_add (fun c : Cell ι τ => c.phase.holds) hc.cell

lemma Changed.output_eq_none (hc : Changed f k s s' c c') : c.output = none := by
  unfold Cell.output
  rw [hc.unread]
  rfl

lemma Inv.mem_queue_iff (h : Inv f limit s) (hk : s.cells[k]? = some c) :
    k ∈ s.queue ↔ c.phase = .queued := by
  rw [h.mem_queue k, hk]
  simp

/-- The queue stays free of duplicates: only an item that is not queued enters it. -/
lemma Changed.queue_nodup (hc : Changed f k s s' c c') (h : Inv f limit s) : s'.queue.Nodup := by
  have hnodup := h.queue_nodup
  rcases hc.queue with ⟨-, -, hqueue⟩ | ⟨hne, -, hqueue⟩ | ⟨-, -, hqueue⟩
  · rw [hqueue]
    exact hnodup
  · have hnew : k ∉ s.queue := fun hk => hne ((h.mem_queue_iff hc.cell).mp hk)
    rw [hqueue]
    exact List.nodup_append_comm.mp (List.nodup_cons.mpr ⟨hnew, hnodup⟩)
  · rw [hqueue] at hnodup
    exact (List.nodup_cons.mp hnodup).2

lemma Changed.mem_queue_self (hc : Changed f k s s' c c') (h : Inv f limit s) :
    k ∈ s'.queue ↔ c'.phase = .queued := by
  rcases hc.queue with ⟨hne, hne', hqueue⟩ | ⟨-, heq', hqueue⟩ | ⟨-, hne', hqueue⟩
  · rw [hqueue]
    exact iff_of_false (fun hk => hne ((h.mem_queue_iff hc.cell).mp hk)) hne'
  · rw [hqueue]
    exact iff_of_true (by simp) heq'
  · have hnodup := h.queue_nodup
    rw [hqueue] at hnodup
    exact iff_of_false (List.nodup_cons.mp hnodup).1 hne'

lemma Changed.mem_queue_of_ne (hc : Changed f k s s' c c') {j : Nat} (hj : j ≠ k) :
    j ∈ s'.queue ↔ j ∈ s.queue := by
  rcases hc.queue with ⟨-, -, hqueue⟩ | ⟨-, -, hqueue⟩ | ⟨-, -, hqueue⟩
  · rw [hqueue]
  · rw [hqueue, List.mem_append, List.mem_singleton, or_iff_left hj]
  · rw [hqueue, List.mem_cons, or_iff_right hj]

end Changed

theorem Inv.move {f : ι → τ} {limit : Nat} {s s' : Pool ι τ} (h : Inv f limit s) {l : Label}
    {k : Nat} (hmove : Move f l k s s') : Inv f limit s' := by
  obtain ⟨c, c', hc⟩ := hmove.changed
  have hmem : c ∈ s.cells := List.mem_of_getElem? hc.cell
  constructor
  case permits =>
    have hheld := hc.held
    have hpermits := hc.permits
    have hold := h.permits
    omega
  case queue_nodup => exact hc.queue_nodup h
  case mem_queue =>
    intro j
    rw [hc.getElem? j]
    by_cases hj : k = j
    · subst hj
      rw [hc.mem_queue_self h]
      simp only [if_true, Option.some.injEq, exists_eq_left']
    · rw [if_neg hj, ← h.mem_queue j]
      exact hc.mem_queue_of_ne (Ne.symm hj)
  case starts =>
    intro d hd
    rcases hc.mem_cells hd with rfl | hd
    · exact hc.starts (h.starts c hmem)
    · exact h.starts d hd
  case result =>
    intro d hd
    rcases hc.mem_cells hd with rfl | hd
    · exact hc.result (h.result c hmem)
    · exact h.result d hd
  case out =>
    rw [hc.out, hc.cells]
    exact (h.out.append_right _).trans
      (filterMap_set_perm Cell.output hc.cell hc.output_eq_none).symm

theorem Reachable.inv {f : ι → τ} {limit : Nat} {s : Pool ι τ} (h : Reachable f limit s) :
    Inv f limit s := by
  induction h with
  | refl => exact Inv.start f limit
  | tail _ hstep ih =>
    cases hstep with
    | move hmove => exact ih.move hmove
    | openCall s items => exact ih.openCall items

/-- Never more calls of the function run than the limit allows. -/
theorem Inv.inFlight_le {f : ι → τ} {limit : Nat} {s : Pool ι τ} (h : Inv f limit s) :
    s.inFlight ≤ limit := by
  have hle : s.inFlight ≤ s.held := by
    refine List.countP_mono_left (fun c _ hc => ?_)
    revert hc
    cases c.phase <;> simp [Phase.isRunning, Phase.holds]
  have hpermits := h.permits
  omega

theorem Inv.starts_le {f : ι → τ} {limit : Nat} {s : Pool ι τ} (h : Inv f limit s)
    {c : Cell ι τ} (hc : c ∈ s.cells) : c.starts ≤ 1 := by
  rw [h.starts c hc, startCount]
  split <;> omega

theorem Inv.starts_of_joined {f : ι → τ} {limit : Nat} {s : Pool ι τ} (h : Inv f limit s)
    {c : Cell ι τ} (hc : c ∈ s.cells) (hjoined : c.phase.isJoined = true) : c.starts = 1 := by
  rw [h.starts c hc]
  revert hjoined
  cases c.phase <;> simp [Phase.isJoined, startCount, Phase.started]

/-! ### Progress -/

/-- Where a permit is held, its task can go on. -/
lemma move_of_holds (f : ι → τ) {s : Pool ι τ} {k : Nat} {c : Cell ι τ}
    (hk : s.cells[k]? = some c) (hholds : c.phase.holds = true) :
    c.phase = .running ∨ ∃ l s', Move f l k s s' ∧ l ≠ .finish ∧ l ≠ .panic := by
  cases hphase : c.phase with
  | pending | queued | released r | joined r =>
    rw [hphase] at hholds
    exact absurd hholds (by simp [Phase.holds])
  | granted => exact .inr ⟨_, _, .spawn hk hphase, by decide, by decide⟩
  | spawned => exact .inr ⟨_, _, .start hk hphase, by decide, by decide⟩
  | running => exact .inl rfl
  | ended r => exact .inr ⟨_, _, .release hk hphase, by decide, by decide⟩

/-- Where the queue is empty and no permit is held, a call can take its next item or join one. -/
lemma move_of_idle (f : ι → τ) {s : Pool ι τ}
    (hholds : ∀ c ∈ s.cells, c.phase.holds = false) (hqueue : ∀ c ∈ s.cells, c.phase ≠ .queued)
    (hunfinished : ∃ c ∈ s.cells, c.phase.isJoined = false) :
    ∃ l k s', Move f l k s s' ∧ l ≠ .finish ∧ l ≠ .panic := by
  have hpassed : ∀ c ∈ s.cells, c.phase ≠ .pending → c.phase.passed = true := by
    intro c hc hne
    have h1 := hholds c hc
    have h2 := hqueue c hc
    revert hne h1 h2
    cases c.phase <;> simp [Phase.passed, Phase.holds]
  by_cases hpending : ∃ (k : Nat) (c : Cell ι τ), s.cells[k]? = some c ∧ c.phase = .pending
  · classical
    obtain ⟨c, hk, hphase⟩ := Nat.find_spec hpending
    refine ⟨_, _, _, .request hk hphase ?_, by decide, by decide⟩
    intro j hj d hd _
    exact hpassed d (List.mem_of_getElem? hd)
      (fun hphase' => Nat.find_min hpending hj ⟨d, hd, hphase'⟩)
  · have hall : ∀ c ∈ s.cells, c.phase.passed = true := by
      intro c hc
      obtain ⟨k, hk⟩ := List.mem_iff_getElem?.mp hc
      exact hpassed c hc (fun hphase => hpending ⟨k, c, hk, hphase⟩)
    obtain ⟨c, hc, hfalse⟩ := hunfinished
    obtain ⟨k, hk⟩ := List.mem_iff_getElem?.mp hc
    obtain ⟨r, hphase⟩ : ∃ r, c.phase = .released r := by
      have h1 := hholds c hc
      have h2 := hall c hc
      revert hfalse h1 h2
      cases c.phase <;> simp [Phase.passed, Phase.holds, Phase.isJoined]
    refine ⟨_, _, _, .join hk hphase ?_, by decide, by decide⟩
    intro j _ d hd _
    exact hall d (List.mem_of_getElem? hd)

/-- A pool with items left is not stuck: a function runs, or there is another step. -/
theorem Inv.progress {f : ι → τ} {limit : Nat} {s : Pool ι τ} (h : Inv f limit s)
    (hlimit : 0 < limit) (hunfinished : ∃ c ∈ s.cells, c.phase.isJoined = false) :
    (∃ (k : Nat) (c : Cell ι τ), s.cells[k]? = some c ∧ c.phase = .running) ∨
      ∃ l k s', Move f l k s s' ∧ l ≠ .finish ∧ l ≠ .panic := by
  by_cases hholds : ∃ c ∈ s.cells, c.phase.holds = true
  · obtain ⟨c, hc, hholds⟩ := hholds
    obtain ⟨k, hk⟩ := List.mem_iff_getElem?.mp hc
    rcases move_of_holds f hk hholds with hrunning | ⟨l, s', hmove, hl⟩
    · exact .inl ⟨k, c, hk, hrunning⟩
    · exact .inr ⟨l, k, s', hmove, hl⟩
  · have hnone : ∀ c ∈ s.cells, c.phase.holds = false :=
      fun c hc => by simpa using fun hc' => hholds ⟨c, hc, hc'⟩
    have hfree : 0 < s.free := by
      have hpermits := h.permits
      rw [Pool.held, List.countP_eq_zero.mpr (fun c hc => by simp [hnone c hc])] at hpermits
      omega
    cases hqueue : s.queue with
    | cons k queue =>
      obtain ⟨c, hk, hphase⟩ := (h.mem_queue k).mp (by rw [hqueue]; exact List.mem_cons_self)
      exact .inr ⟨_, _, _, .grant hk hphase hqueue hfree, by decide, by decide⟩
    | nil =>
      refine .inr (move_of_idle f hnone (fun c hc hphase => ?_) hunfinished)
      obtain ⟨k, hk⟩ := List.mem_iff_getElem?.mp hc
      have hmem := (h.mem_queue k).mpr ⟨c, hk, hphase⟩
      rw [hqueue] at hmem
      exact List.not_mem_nil hmem

/-- As long as functions end, a pool with items left has a step. -/
theorem Inv.exists_move {f : ι → τ} {limit : Nat} {s : Pool ι τ} (h : Inv f limit s)
    (hlimit : 0 < limit) (hunfinished : ∃ c ∈ s.cells, c.phase.isJoined = false) :
    ∃ l k s', Move f l k s s' ∧ l ≠ .panic := by
  rcases h.progress hlimit hunfinished with ⟨k, c, hk, hphase⟩ | ⟨l, k, s', hmove, -, hl⟩
  · exact ⟨_, k, _, .finish hk hphase, by decide⟩
  · exact ⟨l, k, s', hmove, hl⟩

def Pool.rank (s : Pool ι τ) : Nat := (s.cells.map (fun c => c.phase.rank)).sum

lemma sum_map_set {α : Type*} {cells : List α} {k : Nat} {a b : α} (g : α → Nat)
    (h : cells[k]? = some a) :
    ((cells.set k b).map g).sum + g a = (cells.map g).sum + g b := by
  obtain ⟨hcells, hset⟩ := set_eq (b := b) h
  rw [hset]
  conv => rhs; rw [hcells]
  simp only [List.map_append, List.map_cons, List.sum_append_nat, List.sum_cons]
  omega

theorem Move.rank {f : ι → τ} {l : Label} {k : Nat} {s s' : Pool ι τ} (h : Move f l k s s') :
    s'.rank + 1 = s.rank := by
  obtain ⟨c, c', hc⟩ := h.changed
  have hsum := sum_map_set (b := c') (fun c : Cell ι τ => c.phase.rank) hc.cell
  have hrank := hc.rank
  unfold Pool.rank
  rw [hc.cells]
  omega

/-- No step of a call changes which items the calls have. -/
lemma Move.map_item {f : ι → τ} {l : Label} {k : Nat} {s s' : Pool ι τ} (h : Move f l k s s') :
    s'.cells.map (fun c => (c.call, c.item)) = s.cells.map (fun c => (c.call, c.item)) := by
  obtain ⟨c, c', hc⟩ := h.changed
  obtain ⟨hcells, hset⟩ := set_eq (b := c') hc.cell
  rw [hc.cells, hset]
  conv => rhs; rw [hcells]
  simp only [List.map_append, List.map_cons, hc.call, hc.item]

def Phase.panicked : Phase τ → Bool
  | .ended none | .released none | .joined none => true
  | _ => false

lemma Move.panicked {f : ι → τ} {l : Label} {k : Nat} {s s' : Pool ι τ} (h : Move f l k s s')
    (hl : l ≠ .panic) (hs : ∀ c ∈ s.cells, c.phase.panicked = false) :
    ∀ c ∈ s'.cells, c.phase.panicked = false := by
  have key : ∀ (c' : Cell ι τ), c'.phase.panicked = false →
      ∀ d ∈ s.cells.set k c', d.phase.panicked = false := by
    intro c' hc' d hd
    rcases mem_set_cases hd with rfl | hd
    · exact hc'
    · exact hs d hd
  cases h with
  | request | grant | spawn | start | finish => exact key _ rfl
  | panic => exact absurd rfl hl
  | @release s k c r hk hphase | @join s k c r hk hphase hpassed =>
    refine key _ ?_
    have hold := hs _ (List.mem_of_getElem? hk)
    rw [hphase] at hold
    revert hold
    cases r <;> exact id

/-- Steps of calls that were begun, none a panic. -/
def Calm (f : ι → τ) (s s' : Pool ι τ) : Prop := ∃ l k, Move f l k s s' ∧ l ≠ .panic

/-- From every reachable state, all calls can return. -/
theorem Reachable.exists_joined {f : ι → τ} {limit : Nat} {s : Pool ι τ}
    (h : Reachable f limit s) (hlimit : 0 < limit) :
    ∃ s', Relation.ReflTransGen (Calm f) s s' ∧ Reachable f limit s' ∧
      ∀ c ∈ s'.cells, c.phase.isJoined = true := by
  by_cases hunfinished : ∃ c ∈ s.cells, c.phase.isJoined = false
  · obtain ⟨l, k, next, hmove, hl⟩ := h.inv.exists_move hlimit hunfinished
    have hrank := hmove.rank
    obtain ⟨s', hrun, hreachable, hjoined⟩ :=
      Reachable.exists_joined (h.tail (.move hmove)) hlimit
    exact ⟨s', hrun.head ⟨l, k, hmove, hl⟩, hreachable, hjoined⟩
  · refine ⟨s, .refl, h, fun c hc => ?_⟩
    by_contra hfalse
    exact hunfinished ⟨c, hc, by simpa using hfalse⟩
termination_by s.rank
decreasing_by omega

def Pool.items (s : Pool ι τ) (n : Nat) : List ι :=
  (s.cells.filter (fun c => c.call = n)).map Cell.item

def Pool.returned (s : Pool ι τ) (n : Nat) : List τ :=
  (s.out.filter (fun e => e.1 = n)).map Prod.snd

/-- How often the function was called on the items of a call with some property. -/
def Pool.startsOf (s : Pool ι τ) (n : Nat) (p : ι → Bool) : Nat :=
  ((s.cells.filter (fun c => c.call = n && p c.item)).map Cell.starts).sum

/-- A call over some items has returned in a run, and none of its tasks panicked. -/
structure Completed (f : ι → τ) (limit : Nat) (s : Pool ι τ) (n : Nat) (items : List ι) : Prop where
  reachable : Reachable f limit s
  items : s.items n = items
  joined : ∀ c ∈ s.cells, c.call = n → ∃ r, c.phase = .joined (some r)

/-- A call returns what the function gives on its items, in some order. -/
theorem Completed.returned_perm {f : ι → τ} {limit : Nat} {s : Pool ι τ} {n : Nat}
    {items : List ι} (h : Completed f limit s n items) :
    (s.returned n).Perm (items.map f) := by
  have hinv := h.reachable.inv
  have hout : (s.returned n).Perm
      (((s.cells.filterMap Cell.output).filter (fun e => e.1 = n)).map Prod.snd) :=
    (hinv.out.filter _).map _
  refine hout.trans (List.Perm.of_eq ?_)
  rw [← h.items, Pool.items, List.filter_filterMap, List.map_filterMap, List.map_map,
    ← List.filterMap_eq_map, List.filterMap_filter]
  refine List.filterMap_congr (fun c hc => ?_)
  by_cases hcall : c.call = n
  · obtain ⟨r, hphase⟩ := h.joined c hc hcall
    have hr : r = f c.item := hinv.result c hc r (by rw [hphase]; rfl)
    simp [Cell.output, hphase, Phase.output, hcall, hr]
  · cases houtput : c.phase.output <;> simp [Cell.output, houtput, hcall]

/-- There is an order of the items which a call returned in. -/
theorem Completed.exists_order {f : ι → τ} {limit : Nat} {s : Pool ι τ} {n : Nat}
    {items : List ι} (h : Completed f limit s n items) :
    ∃ order : List ι, order.Perm items ∧ s.returned n = order.map f := by
  have hcomp := congrFun (congrFun (List.eq_map_comp_perm f) (s.returned n)) items
  obtain ⟨order, hout, horder⟩ := hcomp.mpr h.returned_perm
  exact ⟨order, horder, hout⟩

/-- A call that returned has called the function once on each of its items. -/
theorem Completed.startsOf_eq {f : ι → τ} {limit : Nat} {s : Pool ι τ} {n : Nat}
    {items : List ι} (h : Completed f limit s n items) (p : ι → Bool) :
    s.startsOf n p = items.countP p := by
  have hone : ∀ c ∈ s.cells.filter (fun c => c.call = n && p c.item), c.starts = 1 := by
    intro c hc
    obtain ⟨hc, hcall⟩ := List.mem_filter.mp hc
    rw [Bool.and_eq_true, decide_eq_true_eq] at hcall
    obtain ⟨r, hphase⟩ := h.joined c hc hcall.1
    exact h.reachable.inv.starts_of_joined hc (by rw [hphase]; rfl)
  have hlength : s.startsOf n p =
      (s.cells.filter (fun c => c.call = n && p c.item)).length := by
    unfold Pool.startsOf
    rw [List.map_congr_left hone, List.map_const', List.sum_replicate_nat, Nat.mul_one]
  rw [hlength, ← h.items, Pool.items, List.countP_map, List.countP_filter,
    List.countP_eq_length_filter]
  congr 2
  funext c
  rw [Bool.and_comm]
  rfl

theorem exists_completed (f : ι → τ) {limit : Nat} (hlimit : 0 < limit) (items : List ι) :
    ∃ s, Completed f limit s 0 items := by
  have hopen : Reachable f limit ((Pool.start limit : Pool ι τ).openCall items) :=
    .single (.openCall _ _)
  obtain ⟨s, hrun, hreachable, hjoined⟩ := hopen.exists_joined hlimit
  have hkept : s.cells.map (fun c => (c.call, c.item)) = items.map (fun item => (0, item)) ∧
      ∀ c ∈ s.cells, c.phase.panicked = false := by
    clear hreachable hjoined
    induction hrun with
    | refl =>
      have hcells : ((Pool.start limit : Pool ι τ).openCall items).cells =
          items.map (newCell 0) := rfl
      rw [hcells]
      constructor
      · rw [List.map_map]
        rfl
      · intro c hc
        obtain ⟨item, -, rfl⟩ := List.mem_map.mp hc
        rfl
    | tail _ hcalm ih =>
      obtain ⟨l, k, hmove, hl⟩ := hcalm
      exact ⟨hmove.map_item.trans ih.1, hmove.panicked hl ih.2⟩
  obtain ⟨hitems, hpanicked⟩ := hkept
  have hcall : ∀ c ∈ s.cells, c.call = 0 := by
    intro c hc
    have hmem := List.mem_map_of_mem (f := fun c : Cell ι τ => (c.call, c.item)) hc
    rw [hitems] at hmem
    obtain ⟨item, -, heq⟩ := List.mem_map.mp hmem
    exact (congrArg Prod.fst heq).symm
  refine ⟨s, hreachable, ?_, ?_⟩
  · have hfilter : s.cells.filter (fun c => c.call = 0) = s.cells :=
      List.filter_eq_self.mpr (fun c hc => decide_eq_true (hcall c hc))
    have hsnd := congrArg (List.map Prod.snd) hitems
    rw [List.map_map, List.map_map] at hsnd
    rw [Pool.items, hfilter]
    exact hsnd.trans (List.map_id _)
  · intro c hc _
    have h1 := hjoined c hc
    have h2 := hpanicked c hc
    cases hphase : c.phase with
    | joined r =>
      rw [hphase] at h2
      cases r with
      | none => exact absurd h2.symm Bool.false_ne_true
      | some r => exact ⟨r, rfl⟩
    | _ =>
      rw [hphase] at h1
      exact absurd h1 Bool.false_ne_true

end TaskPool

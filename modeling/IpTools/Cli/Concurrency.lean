import IpTools.Library.NestedPool

/-!
# Bounded concurrency

The maps of the probe sweeps, each as the runs it can go through: its closures run in tasks that
own a permit of a semaphore, and several maps may share one.
-/

namespace IpTools

open TaskPool

variable {ι κ τ σ : Type}

def maxConcurrency : Nat := 256

/-- The permits for a requested concurrency: `clamp(1, MAX_CONCURRENCY)`. -/
def sharedSemaphore (concurrency : Nat) : Nat :=
  if concurrency < 1 then 1 else if concurrency > maxConcurrency then maxConcurrency
  else concurrency

/-- The states of calls of `parallel_map_with_limit` that share one semaphore. -/
def ParallelMaps (f : ι → τ) (concurrency : Nat) (s : Pool ι τ) : Prop :=
  Reachable f (sharedSemaphore concurrency) s

/-- A call of `parallel_map_with_limit` over some items has returned, and no task panicked. -/
def ParallelMapped (f : ι → τ) (concurrency : Nat) (items : List ι) (out : List τ) : Prop :=
  ∃ s n, Completed f (sharedSemaphore concurrency) s n items ∧ out = s.returned n

/-- The states of `diagnose`: a map over the targets with a semaphore of its own, and within the
task of a target a row of maps, given by their items, over a semaphore that all targets share. -/
def DiagnoseMaps (f : κ → σ) (concurrency : Nat) (targets : List ι) (maps : ι → List (List κ))
    (s : Nest ι κ σ) : Prop :=
  Nest.Reachable f (sharedSemaphore concurrency) (sharedSemaphore concurrency) targets maps s

lemma sharedSemaphore_pos (concurrency : Nat) : 0 < sharedSemaphore concurrency := by
  unfold sharedSemaphore maxConcurrency
  split
  · decide
  · split <;> omega

lemma sharedSemaphore_eq (concurrency : Nat) :
    sharedSemaphore concurrency = max 1 (min concurrency 256) := by
  unfold sharedSemaphore maxConcurrency
  split
  · omega
  · split <;> omega

end IpTools

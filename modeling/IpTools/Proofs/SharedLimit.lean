import IpTools.Cli.Concurrency

/-!
# The shared limit

Maps that share a semaphore keep within its permits, start each closure once and are never stuck,
also where they run within the tasks of an outer map.
-/

namespace IpTools

open TaskPool

variable {ι κ τ σ : Type}

/-- What a semaphore for a requested concurrency keeps in a state of its maps. -/
structure KeepsLimit (concurrency : Nat) (s : Pool ι τ) : Prop where
  inFlight : s.inFlight ≤ max 1 (min concurrency 256)
  permits : s.held + s.free = max 1 (min concurrency 256)
  startedOnce : ∀ c ∈ s.cells, c.starts ≤ 1
  startedAll : (∀ c ∈ s.cells, c.phase.isJoined = true) → ∀ c ∈ s.cells, c.starts = 1

lemma keepsLimit_of_reachable {f : ι → τ} {concurrency : Nat} {s : Pool ι τ}
    (h : Reachable f (sharedSemaphore concurrency) s) : KeepsLimit concurrency s := by
  have hinv := h.inv
  rw [sharedSemaphore_eq] at hinv
  exact {
    inFlight := hinv.inFlight_le
    permits := (Nat.add_comm _ _).trans hinv.permits
    startedOnce := fun _ hc => hinv.starts_le hc
    startedAll := fun hjoined c hc => hinv.starts_of_joined hc (hjoined c hc) }

/-- In every state of every interleaving the limit is kept, and where items are left some task
can go on. -/
theorem limit_kept_without_deadlock (f : κ → σ) (concurrency : Nat) :
    (∀ s, ParallelMaps f concurrency s → KeepsLimit concurrency s ∧
      ((∃ c ∈ s.cells, c.phase.isJoined = false) →
        ∃ l k s', Move f l k s s' ∧ l ≠ .panic)) ∧
    ∀ (targets : List ι) (maps : ι → List (List κ)) (s : Nest ι κ σ),
      DiagnoseMaps f concurrency targets maps s →
        KeepsLimit concurrency s.outer ∧ KeepsLimit concurrency s.inner ∧
          (s.Unfinished → ∃ e s', NestStep f e s s' ∧ ¬e.IsPanic) := by
  have hpos := sharedSemaphore_pos concurrency
  constructor
  · intro s h
    exact ⟨keepsLimit_of_reachable h, h.inv.exists_move hpos⟩
  · intro targets maps s h
    exact ⟨keepsLimit_of_reachable h.outer, keepsLimit_of_reachable h.inner,
      h.exists_step hpos hpos⟩

/-- From every state of `diagnose`, its tasks can be run to their ends without another panic. -/
theorem diagnose_maps_finish {f : κ → σ} {concurrency : Nat} {targets : List ι}
    {maps : ι → List (List κ)} {s : Nest ι κ σ} (h : DiagnoseMaps f concurrency targets maps s) :
    ∃ s', Relation.ReflTransGen (fun s s' => ∃ e, NestStep f e s s' ∧ ¬e.IsPanic) s s' ∧
      ¬s'.Unfinished :=
  h.exists_finished (sharedSemaphore_pos concurrency) (sharedSemaphore_pos concurrency)

lemma passedBefore_zero (s : Pool ι τ) (call : Nat) : s.PassedBefore call 0 :=
  fun j hj => absurd hj (Nat.not_lt_zero j)

/-- A call over three items, in which the task of the first one is about to be spawned. -/
lemma exists_granted : ∃ s : Pool Nat Nat, ParallelMaps Nat.succ 0 s ∧ s.held = 1 ∧
    ∃ c ∈ s.cells, c.phase.isJoined = false :=
  ⟨_, Relation.ReflTransGen.refl
      |>.tail (.openCall _ [4, 5, 6])
      |>.tail (.move (.request (k := 0) rfl rfl (passedBefore_zero _ _)))
      |>.tail (.move (.grant (k := 0) rfl rfl rfl (by decide))),
    rfl, _, List.mem_cons_self, rfl⟩

/-- Two targets of two maps each. The first map of the first target is open, and its task holds the
permit that all targets share. -/
lemma exists_nested : ∃ t : Nest Nat Nat Nat,
    DiagnoseMaps Nat.succ 0 [7, 8] (fun n => [[n], [n + 1]]) t ∧
      t.outer.held = 1 ∧ t.inner.held = 1 ∧ (t.frame 0).call = some 0 ∧ t.Unfinished :=
  ⟨_, Relation.ReflTransGen.refl
      |>.tail ⟨_, .outer (.request (k := 0) rfl rfl (passedBefore_zero _ _)) (by decide)
        (by decide)⟩
      |>.tail ⟨_, .outer (.grant (k := 0) rfl rfl rfl (by decide)) (by decide) (by decide)⟩
      |>.tail ⟨_, .outer (.spawn (k := 0) rfl rfl) (by decide) (by decide)⟩
      |>.tail ⟨_, .outer (.start (k := 0) rfl rfl) (by decide) (by decide)⟩
      |>.tail ⟨_, .call (k := 0) rfl rfl rfl⟩
      |>.tail ⟨_, .inner (.request (k := 0) rfl rfl (passedBefore_zero _ _))⟩
      |>.tail ⟨_, .inner (.grant (k := 0) rfl rfl rfl (by decide))⟩,
    rfl, rfl, rfl, .inl ⟨_, List.mem_cons_self, rfl⟩⟩

/-- A state with a held permit, and one of a nested map with both permits held. -/
theorem limit_kept_without_deadlock_held :
    (∃ s : Pool Nat Nat, s.held = 1 ∧ KeepsLimit 0 s ∧
      ∃ l k s', Move Nat.succ l k s s' ∧ l ≠ .panic) ∧
    ∃ t : Nest Nat Nat Nat, t.outer.held = 1 ∧ t.inner.held = 1 ∧ (t.frame 0).call = some 0 ∧
      KeepsLimit 0 t.outer ∧ KeepsLimit 0 t.inner ∧
        ∃ e t', NestStep Nat.succ e t t' ∧ ¬e.IsPanic := by
  obtain ⟨hmaps, hnested⟩ := limit_kept_without_deadlock (ι := Nat) Nat.succ 0
  obtain ⟨s, hs, hheld, hleft⟩ := exists_granted
  obtain ⟨t, ht, houter, hinner, hcall, hunfinished⟩ := exists_nested
  obtain ⟨hlimit, hmove⟩ := hmaps s hs
  obtain ⟨houterLimit, hinnerLimit, hstep⟩ := hnested _ _ t ht
  exact ⟨⟨s, hheld, hlimit, hmove hleft⟩,
    t, houter, hinner, hcall, houterLimit, hinnerLimit, hstep hunfinished⟩

end IpTools

import Mathlib.Data.List.Basic
import Mathlib.Tactic.Common

/-!
# Loops over events

A loop that waits for one event after the other until one of them ends it. A loop around such a loop
goes on where the outcome of the inner one does not end it; the two are one loop with a longer step.
-/

namespace EventLoop

variable {ε ω ω' : Type*}

/-- The events that a loop has taken, its outcome and the events that it has left. There is no
outcome where the loop waits for another event. -/
structure Run (ε ω : Type*) where
  taken : List ε
  outcome : Option ω
  rest : List ε
deriving DecidableEq

def Run.prepend (es : List ε) (r : Run ε ω) : Run ε ω := { r with taken := es ++ r.taken }

/-- Take events until one has an outcome. -/
def run (step : ε → Option ω) : List ε → Run ε ω
  | [] => ⟨[], none, []⟩
  | e :: es =>
    match step e with
    | some o => ⟨[e], some o, es⟩
    | none => (run step es).prepend [e]

lemma run_cons_of_some {step : ε → Option ω} {e : ε} {o : ω} (h : step e = some o) (es : List ε) :
    run step (e :: es) = ⟨[e], some o, es⟩ := by
  unfold run
  rw [h]

lemma run_cons_of_none {step : ε → Option ω} {e : ε} (h : step e = none) (es : List ε) :
    run step (e :: es) = (run step es).prepend [e] := by
  rw [run, h]

/-- A loop that no event ends takes them all and waits for another one. -/
lemma run_of_forall_none {step : ε → Option ω} {es : List ε} (h : ∀ e ∈ es, step e = none) :
    run step es = ⟨es, none, []⟩ := by
  induction es with
  | nil => rfl
  | cons e es ih =>
    obtain ⟨he, hes⟩ := List.forall_mem_cons.mp h
    rw [run_cons_of_none he, ih hes]
    rfl

/-- The outcome is that of the first event that has one. -/
lemma outcome_run (step : ε → Option ω) (es : List ε) :
    (run step es).outcome = es.findSome? step := by
  induction es with
  | nil => rfl
  | cons e es ih =>
    rw [List.findSome?_cons]
    cases hstep : step e with
    | some o => rw [run_cons_of_some hstep]
    | none =>
      rw [run_cons_of_none hstep]
      exact ih

lemma taken_append_rest (step : ε → Option ω) (es : List ε) :
    (run step es).taken ++ (run step es).rest = es := by
  induction es with
  | nil => rfl
  | cons e es ih =>
    cases hstep : step e with
    | some o => rw [run_cons_of_some hstep, List.singleton_append]
    | none =>
      rw [run_cons_of_none hstep]
      exact congrArg (e :: ·) ih

/-- A loop with an outcome has taken an event. -/
lemma taken_ne_nil {step : ε → Option ω} {es : List ε}
    (h : (run step es).outcome.isSome = true) : (run step es).taken ≠ [] := by
  cases es with
  | nil => cases h
  | cons e es =>
    cases hstep : step e with
    | some o =>
      rw [run_cons_of_some hstep]
      exact List.cons_ne_nil _ _
    | none =>
      rw [run_cons_of_none hstep]
      exact List.cons_ne_nil _ _

lemma length_rest_lt {step : ε → Option ω} {es : List ε}
    (h : (run step es).outcome.isSome = true) : (run step es).rest.length < es.length := by
  have hlength := congrArg List.length (taken_append_rest step es)
  have hpos := List.length_pos_iff.mpr (taken_ne_nil h)
  rw [List.length_append] at hlength
  omega

/-- The step of the inner loop, and what the outer one makes of its outcome. -/
def nest (step : ε → Option ω) (after : ω → Option ω') (e : ε) : Option ω' := (step e).bind after

/-- The outer loop after the inner one: it waits, ends, or goes on with the events left. -/
def Run.round (r : Run ε ω) (after : ω → Option ω') (next : List ε → Run ε ω') : Run ε ω' :=
  match r.outcome with
  | none => ⟨r.taken, none, r.rest⟩
  | some o =>
    match after o with
    | some o' => ⟨r.taken, some o', r.rest⟩
    | none => (next r.rest).prepend r.taken

lemma Run.round_of_none {r : Run ε ω} (h : r.outcome = none) (after : ω → Option ω')
    (next : List ε → Run ε ω') : r.round after next = ⟨r.taken, none, r.rest⟩ := by
  unfold Run.round
  rw [h]

lemma Run.round_of_end {r : Run ε ω} {after : ω → Option ω'} {o : ω} {o' : ω'}
    (h : r.outcome = some o) (ho : after o = some o') (next : List ε → Run ε ω') :
    r.round after next = ⟨r.taken, some o', r.rest⟩ := by
  unfold Run.round
  rw [h]
  dsimp only
  rw [ho]

lemma Run.round_of_again {r : Run ε ω} {after : ω → Option ω'} {o : ω}
    (h : r.outcome = some o) (ho : after o = none) (next : List ε → Run ε ω') :
    r.round after next = (next r.rest).prepend r.taken := by
  unfold Run.round
  rw [h]
  dsimp only
  rw [ho]

lemma Run.round_prepend (r : Run ε ω) (after : ω → Option ω') (next : List ε → Run ε ω')
    (es : List ε) : (r.prepend es).round after next = (r.round after next).prepend es := by
  cases h : r.outcome with
  | none =>
    rw [Run.round_of_none h, Run.round_of_none (r := r.prepend es) h]
    rfl
  | some o =>
    cases ho : after o with
    | some o' =>
      rw [Run.round_of_end h ho, Run.round_of_end (r := r.prepend es) h ho]
      rfl
    | none =>
      rw [Run.round_of_again h ho, Run.round_of_again (r := r.prepend es) h ho]
      unfold Run.prepend
      rw [List.append_assoc]

/-- The loop around the loop is one loop. -/
theorem run_nest (step : ε → Option ω) (after : ω → Option ω') (es : List ε) :
    run (nest step after) es = (run step es).round after (run (nest step after)) := by
  induction es with
  | nil => rfl
  | cons e es ih =>
    cases hstep : step e with
    | some o =>
      have hnest : nest step after e = after o := by
        unfold nest
        rw [hstep, Option.bind_some]
      rw [run_cons_of_some hstep]
      cases hafter : after o with
      | some o' => rw [run_cons_of_some (hnest.trans hafter), Run.round_of_end rfl hafter]
      | none => rw [run_cons_of_none (hnest.trans hafter), Run.round_of_again rfl hafter]
    | none =>
      have hnest : nest step after e = none := by
        unfold nest
        rw [hstep, Option.bind_none]
      rw [run_cons_of_none hstep, run_cons_of_none hnest, ih, Run.round_prepend]

/-- A late event is the last one that the loop takes or waits for. -/
def LateIsLast (late : ε → Prop) (r : Run ε ω) : Prop :=
  ∀ before e after, r.taken = before ++ e :: after → late e →
    after = [] ∧ r.outcome.isSome = true

theorem lateIsLast_run_iff {late : ε → Prop} {step : ε → Option ω} (es : List ε) :
    LateIsLast late (run step es) ↔
      ∀ e ∈ (run step es).taken, late e → (step e).isSome = true := by
  induction es with
  | nil =>
    refine iff_of_true (fun before e after h => ?_) (fun e he => by cases he)
    cases before <;> cases h
  | cons e es ih =>
    cases hstep : step e with
    | some o =>
      rw [run_cons_of_some hstep]
      refine iff_of_true (fun before e' after h _ => ?_) (fun e' he' _ => ?_)
      · rcases before with - | ⟨b, before⟩
        · exact ⟨(List.cons.inj h).2.symm, rfl⟩
        · exact absurd (List.cons.inj h).2 (by simp)
      · rw [List.mem_singleton.mp he', hstep]
        rfl
    | none =>
      rw [run_cons_of_none hstep]
      change LateIsLast late ((run step es).prepend [e]) ↔
        ∀ e' ∈ e :: (run step es).taken, late e' → (step e').isSome = true
      rw [List.forall_mem_cons, hstep, ← ih]
      constructor
      · intro h
        refine ⟨fun hlate => ?_, fun before e' after heq hlate => ?_⟩
        · obtain ⟨hnil, hsome⟩ := h [] e (run step es).taken rfl hlate
          exact absurd hnil (taken_ne_nil hsome)
        · exact h (e :: before) e' after (by
            change e :: (run step es).taken = _
            rw [heq]
            rfl) hlate
      · rintro ⟨he, h⟩ before e' after heq hlate
        rcases before with - | ⟨b, before⟩
        · rw [← (List.cons.inj heq).1] at hlate
          exact absurd (he hlate) (by simp)
        · exact h before e' after (List.cons.inj heq).2 hlate

/-- At most one late event is taken or waited for. -/
lemma LateIsLast.countP_le {late : ε → Prop} [DecidablePred late] {r : Run ε ω}
    (h : LateIsLast late r) :
    r.taken.countP (fun e => late e) + r.outcome.isNone.toNat ≤ 1 := by
  by_cases hex : ∃ e ∈ r.taken, late e
  · obtain ⟨e, he, hlate⟩ := hex
    obtain ⟨before, after, htaken⟩ := List.append_of_mem he
    obtain ⟨rfl, hsome⟩ := h before e after htaken hlate
    have hbefore : before.countP (fun e => late e) = 0 := by
      refine List.countP_eq_zero.mpr (fun b hb hlateb => ?_)
      obtain ⟨first, second, rfl⟩ := List.append_of_mem hb
      rw [List.append_assoc, List.cons_append] at htaken
      have hnil := (h first b (second ++ [e]) htaken (of_decide_eq_true hlateb)).1
      exact absurd hnil (by simp)
    have hnone : r.outcome.isNone = false := by
      rw [← Option.not_isSome, hsome, Bool.not_true]
    rw [htaken, List.countP_append, hbefore, hnone, List.countP_singleton, if_pos (by simp [hlate])]
    exact Nat.le_refl 1
  · have hzero : r.taken.countP (fun e => late e) = 0 :=
      List.countP_eq_zero.mpr (fun e he hlate => hex ⟨e, he, of_decide_eq_true hlate⟩)
    rw [hzero, Nat.zero_add]
    exact Bool.toNat_le _

end EventLoop

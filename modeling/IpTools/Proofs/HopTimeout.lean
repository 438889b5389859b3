import IpTools.Proofs.IcmpErrors
import IpTools.Route.Traceroute

/-!
# The timeout of a hop

Every path of the receive loop looks at the clock before it starts another receive, but the one of
a packet that the parser rejects. While such packets arrive no deadline ends the loop.
-/

namespace IpTools

/-- A packet that the parser rejects. -/
def Receive.Rejected (r : Receive) : Prop :=
  ∃ packet, r.received = .packet packet ∧ packet.quoted = none

/-- The loop of a probe after one call of `recv_icmp`: whether it ends, and with what. -/
def afterRecv (localPort : UInt16) (start deadline : Nat) :
    RecvResult × Nat → Option (Option Reply)
  | (.ok none, _) => some none
  | (.ok (some (src, port)), now) =>
    if port = localPort then some (some ⟨src, (Duration.mk (now - start)).millis⟩)
    else if now < deadline then none else some none
  | (.error _, now) => if now < deadline then none else some none

/-- The loop of a probe with the one of `recv_icmp` in it, as one step. -/
def probeStep (localPort : UInt16) (start deadline : Nat) : Receive → Option (Option Reply) :=
  EventLoop.nest (recvRead deadline) (afterRecv localPort start deadline)

lemma run_probeStep (localPort : UInt16) (start deadline : Nat) (receives : List Receive) :
    EventLoop.run (probeStep localPort start deadline) receives =
      (recvIcmp deadline receives).round (afterRecv localPort start deadline)
        (EventLoop.run (probeStep localPort start deadline)) :=
  EventLoop.run_nest _ _ receives

lemma probeLoop_eq (localPort : UInt16) (start deadline : Nat) (receives : List Receive) :
    ∀ now, now < deadline → probeLoop localPort start deadline now receives =
      EventLoop.run (probeStep localPort start deadline) receives := by
  induction hn : receives.length using Nat.strong_induction_on generalizing receives with
  | _ n ih =>
    subst hn
    intro now hnow
    rw [run_probeStep, probeLoop, if_pos hnow]
    -- a call that does not end the probe leaves it to the next reading of the clock
    have hagain : ∀ result next, (recvIcmp deadline receives).outcome = some (result, next) →
        afterRecv localPort start deadline (result, next) =
          (if next < deadline then none else some none) →
        (probeLoop localPort start deadline next (recvIcmp deadline receives).rest).prepend
          (recvIcmp deadline receives).taken =
        (recvIcmp deadline receives).round (afterRecv localPort start deadline)
          (EventLoop.run (probeStep localPort start deadline)) := by
      intro result next houtcome hafter
      have hlt : (recvIcmp deadline receives).rest.length < receives.length :=
        EventLoop.length_rest_lt (Option.isSome_of_eq_some houtcome)
      by_cases hnext : next < deadline
      · rw [if_pos hnext] at hafter
        rw [EventLoop.Run.round_of_again houtcome hafter, ih _ hlt _ rfl next hnext]
      · rw [if_neg hnext] at hafter
        rw [EventLoop.Run.round_of_end houtcome hafter, probeLoop, if_neg hnext]
        unfold EventLoop.Run.prepend
        rw [List.append_nil]
    dsimp only
    split
    case h_1 houtcome => rw [EventLoop.Run.round_of_none houtcome]
    case h_2 next houtcome =>
      have hafter : afterRecv localPort start deadline (.ok none, next) = some none := rfl
      rw [EventLoop.Run.round_of_end houtcome hafter]
    case h_3 src port next houtcome =>
      by_cases hport : port = localPort
      · have hafter : afterRecv localPort start deadline (.ok (some (src, port)), next) =
            some (some ⟨src, (Duration.mk (next - start)).millis⟩) := if_pos hport
        rw [if_pos hport, EventLoop.Run.round_of_end houtcome hafter]
      · rw [if_neg hport]
        exact hagain _ next houtcome (if_neg hport)
    case h_4 e next houtcome => exact hagain _ next houtcome rfl

/-- A receive that completes at or past the deadline is the last one that is started, so at most
one is started at or past it: of those that completed and the one that is waited for. -/
structure HonoursTimeout {ω : Type} (deadline : Nat) (run : EventLoop.Run Receive ω) :
    Prop where
  last : EventLoop.LateIsLast (fun r => deadline ≤ r.completed) run
  once : run.taken.countP (fun r => deadline ≤ r.started) + run.outcome.isNone.toNat ≤ 1

lemma honoursTimeout_iff {ω : Type} {deadline : Nat} {run : EventLoop.Run Receive ω} :
    HonoursTimeout deadline run ↔
      EventLoop.LateIsLast (fun r => deadline ≤ r.completed) run := by
  refine ⟨fun h => h.last, fun h => ⟨h, ?_⟩⟩
  have hstarted : EventLoop.LateIsLast (fun r => deadline ≤ r.started) run :=
    fun before r after htaken hlate =>
      h before r after htaken (Nat.le_trans hlate r.started_le)
  exact hstarted.countP_le

/-- Past the deadline only a rejected packet makes `recv_icmp` start another receive. -/
lemma recvStep_isSome_iff {deadline : Nat} {r : Receive} (hlate : deadline ≤ r.completed) :
    (recvStep deadline r).isSome = true ↔ ¬r.Rejected := by
  have hchecked : deadline ≤ r.checked := Nat.le_trans hlate r.completed_le
  unfold recvStep Receive.Rejected
  cases r.received with
  | packet packet =>
    cases hquoted : packet.quoted with
    | none => simp [hquoted]
    | some quoted => simp [hquoted]
  | error kind => cases kind <;> simp [hchecked]

lemma recvRead_isSome_iff {deadline : Nat} {r : Receive} (hlate : deadline ≤ r.completed) :
    (recvRead deadline r).isSome = true ↔ ¬r.Rejected := by
  unfold recvRead
  rw [Option.isSome_map, recvStep_isSome_iff hlate]

/-- The loop of the probe does not go on past the deadline where `recv_icmp` returned. -/
lemma probeStep_isSome_iff {deadline : Nat} {r : Receive} (localPort : UInt16) (start : Nat)
    (hlate : deadline ≤ r.completed) :
    (probeStep localPort start deadline r).isSome = true ↔ ¬r.Rejected := by
  rw [← recvStep_isSome_iff hlate]
  have hreturned : ¬r.returned < deadline :=
    Nat.not_lt.mpr (Nat.le_trans hlate (Nat.le_trans r.completed_le r.checked_le))
  unfold probeStep EventLoop.nest recvRead
  cases recvStep deadline r with
  | none => simp
  | some result =>
    rcases result with e | - | ⟨src, port⟩
    · simp [afterRecv, hreturned]
    · simp [afterRecv]
    · by_cases hport : port = localPort <;> simp [afterRecv, hport, hreturned]

lemma honoursTimeout_run_iff {ω : Type} {deadline : Nat} {step : Receive → Option ω}
    (hstep : ∀ r : Receive, deadline ≤ r.completed → ((step r).isSome = true ↔ ¬r.Rejected))
    (receives : List Receive) :
    HonoursTimeout deadline (EventLoop.run step receives) ↔
      ∀ r ∈ (EventLoop.run step receives).taken, ¬(deadline ≤ r.completed ∧ r.Rejected) := by
  rw [honoursTimeout_iff, EventLoop.lateIsLast_run_iff]
  refine forall₂_congr (fun r _ => ?_)
  constructor
  · rintro h ⟨hlate, hrejected⟩
    exact (hstep r hlate).mp (h hlate) hrejected
  · intro h hlate
    exact (hstep r hlate).mpr (fun hrejected => h ⟨hlate, hrejected⟩)

/-- The timeout is honoured in exactly the runs in which the parser rejects no packet that arrives
at or past the deadline. -/
theorem hop_timeout_iff (localPort : UInt16) (start deadline now : Nat)
    (receives : List Receive) :
    (HonoursTimeout deadline (recvIcmp deadline receives) ↔
      ∀ r ∈ (recvIcmp deadline receives).taken, ¬(deadline ≤ r.completed ∧ r.Rejected)) ∧
    (HonoursTimeout deadline (probeLoop localPort start deadline now receives) ↔
      ∀ r ∈ (probeLoop localPort start deadline now receives).taken,
        ¬(deadline ≤ r.completed ∧ r.Rejected)) := by
  refine ⟨honoursTimeout_run_iff (fun r hlate => recvRead_isSome_iff hlate) receives, ?_⟩
  by_cases hnow : now < deadline
  · rw [probeLoop_eq localPort start deadline receives now hnow]
    exact honoursTimeout_run_iff (fun r hlate => probeStep_isSome_iff localPort start hlate)
      receives
  · rw [probeLoop, if_neg hnow, honoursTimeout_iff]
    refine iff_of_true (fun before r after h => ?_) (fun r hr => by cases hr)
    cases before <;> cases h

lemma recvRead_of_rejected {r : Receive} (h : r.Rejected) (deadline : Nat) :
    recvRead deadline r = none := by
  obtain ⟨packet, hpacket, hquoted⟩ := h
  unfold recvRead recvStep
  rw [hpacket]
  dsimp only
  rw [hquoted]
  rfl

/-- While rejected packets arrive `recv_icmp` does not return, whatever its deadline is. -/
theorem recvIcmp_of_rejected {receives : List Receive} (h : ∀ r ∈ receives, r.Rejected)
    (deadline : Nat) : recvIcmp deadline receives = ⟨receives, none, []⟩ :=
  EventLoop.run_of_forall_none (fun r hr => recvRead_of_rejected (h r hr) deadline)

theorem probeLoop_of_rejected {receives : List Receive} (h : ∀ r ∈ receives, r.Rejected)
    (localPort : UInt16) (start : Nat) {deadline now : Nat} (hnow : now < deadline) :
    probeLoop localPort start deadline now receives = ⟨receives, none, []⟩ := by
  rw [probeLoop_eq localPort start deadline receives now hnow]
  refine EventLoop.run_of_forall_none (fun r hr => ?_)
  unfold probeStep EventLoop.nest
  rw [recvRead_of_rejected (h r hr), Option.bind_none]

/-- A reply to an echo request of another program. -/
def echoReply : Packet :=
  ⟨.new 192 0 2 1, 0x45 :: List.replicate 27 0, by decide, by decide⟩

/-- An echo reply that arrives the given time after the receive was started. -/
def receiveEcho (started delay : Nat) : Receive :=
  { started, completed := started + delay, received := .packet echoReply,
    checked := started + delay, returned := started + delay, started_le := Nat.le_add_right _ _,
    completed_le := Nat.le_refl _, checked_le := Nat.le_refl _ }

lemma receiveEcho_rejected (started delay : Nat) : (receiveEcho started delay).Rejected :=
  ⟨echoReply, rfl, by decide⟩

/-- The first echo reply arrives at the deadline of one second, and the second one later. -/
theorem not_honoursTimeout_echoReplies :
    ¬HonoursTimeout 1000000000 (recvIcmp 1000000000
      [receiveEcho 950000000 50000000, receiveEcho 1000000000 80000000]) ∧
    ¬HonoursTimeout 1000000000 (probeLoop 40000 0 1000000000 0
      [receiveEcho 950000000 50000000, receiveEcho 1000000000 80000000]) := by
  have hrejected : ∀ r ∈ [receiveEcho 950000000 50000000, receiveEcho 1000000000 80000000],
      r.Rejected :=
    List.forall_iff_forall_mem.mp ⟨receiveEcho_rejected _ _, receiveEcho_rejected _ _⟩
  rw [recvIcmp_of_rejected hrejected, probeLoop_of_rejected hrejected 40000 0 (by omega)]
  constructor <;>
  · intro h
    have hnil := (h.last [] (receiveEcho 950000000 50000000)
      [receiveEcho 1000000000 80000000] rfl (Nat.le_refl _)).1
    cases hnil

end IpTools

import IpTools.Proofs.HopTimeout
import IpTools.Proofs.RouteAggregation

/-!
# What a trace has seen

The hops of a trace that ends, by the packets that the raw socket received: which packet answered
which probe, which probes were given up, and where the trace stopped.
-/

namespace IpTools

open BoundedLoop

/-- A packet that quotes a port, from an address. -/
def Receive.Quotes (r : Receive) (port : UInt16) (src : IpAddr) : Prop :=
  ∃ packet kind, r.received = .packet packet ∧ packet.quoted = some (kind, port) ∧
    src = .v4 packet.src

/-- A packet that quotes another port. -/
def Receive.QuotesOther (r : Receive) (port : UInt16) : Prop :=
  ∃ other src, other ≠ port ∧ r.Quotes other src

/-- A probe waits on after a receive: after a packet that the parser rejects whatever the time is,
and otherwise before the deadline. -/
inductive Receive.Passes (port : UInt16) (deadline : Nat) (r : Receive) : Prop
  | rejected (h : r.Rejected)
  | other (h : r.QuotesOther port) (hbefore : r.returned < deadline)
  | waiting (h : r.received = .error .wouldBlock ∨ r.received = .error .timedOut)
      (hbefore : r.checked < deadline)
  | failed (h : r.received = .error .other) (hbefore : r.returned < deadline)

/-- A probe gives up after a receive. -/
inductive Receive.Expires (port : UInt16) (deadline : Nat) (r : Receive) : Prop
  | other (h : r.QuotesOther port) (hlate : deadline ≤ r.returned)
  | waiting (h : r.received = .error .wouldBlock ∨ r.received = .error .timedOut)
      (hlate : deadline ≤ r.checked)
  | failed (h : r.received = .error .other) (hlate : deadline ≤ r.returned)

/-- The reply that a packet is to a probe started at a time. -/
def Receive.Replies (port : UInt16) (start : Nat) (r : Receive) (reply : Reply) : Prop :=
  r.Quotes port reply.src ∧ reply.rttMs = (Duration.mk (r.returned - start)).millis

lemma probeStep_of_rejected {r : Receive} (h : r.Rejected) (port : UInt16)
    (start deadline : Nat) : probeStep port start deadline r = none := by
  unfold probeStep EventLoop.nest
  rw [recvRead_of_rejected h, Option.bind_none]

lemma probeStep_of_quotes {r : Receive} {other : UInt16} {src : IpAddr} (h : r.Quotes other src)
    (port : UInt16) (start deadline : Nat) :
    probeStep port start deadline r =
      if other = port then some (some ⟨src, (Duration.mk (r.returned - start)).millis⟩)
      else if r.returned < deadline then none else some none := by
  obtain ⟨packet, kind, hpacket, hquoted, rfl⟩ := h
  have hread : recvRead deadline r = some (.ok (some (.v4 packet.src, other)), r.returned) := by
    simp [recvRead, recvStep, hpacket, hquoted]
  unfold probeStep EventLoop.nest
  rw [hread, Option.bind_some]
  rfl

lemma probeStep_of_waiting {r : Receive}
    (h : r.received = .error .wouldBlock ∨ r.received = .error .timedOut) (port : UInt16)
    (start deadline : Nat) :
    probeStep port start deadline r = if r.checked < deadline then none else some none := by
  have hread : recvRead deadline r =
      if r.checked < deadline then none else some (.ok none, r.returned) := by
    by_cases hlate : r.checked < deadline
    · have hnot : ¬deadline ≤ r.checked := Nat.not_le.mpr hlate
      rcases h with h | h <;> simp [recvRead, recvStep, h, hlate, hnot]
    · have hle : deadline ≤ r.checked := Nat.not_lt.mp hlate
      rcases h with h | h <;> simp [recvRead, recvStep, h, hlate, hle]
  unfold probeStep EventLoop.nest
  rw [hread]
  by_cases hlate : r.checked < deadline
  · rw [if_pos hlate, if_pos hlate, Option.bind_none]
  · rw [if_neg hlate, if_neg hlate, Option.bind_some]
    rfl

/-- An error past the deadline ends the probe in `recv_icmp` or in the loop around it. -/
lemma probeStep_of_failed {r : Receive} (h : r.received = .error .other) (port : UInt16)
    (start deadline : Nat) :
    probeStep port start deadline r = if r.returned < deadline then none else some none := by
  have hle := r.checked_le
  unfold probeStep EventLoop.nest
  by_cases hlate : deadline ≤ r.checked
  · have hreturned : ¬r.returned < deadline := by omega
    rw [if_neg hreturned]
    simp [recvRead, recvStep, h, hlate, afterRecv]
  · simp [recvRead, recvStep, h, hlate, afterRecv]

/-- The receives by what the loop makes of them. -/
lemma receive_cases (r : Receive) :
    r.Rejected ∨ (∃ port src, r.Quotes port src) ∨
      (r.received = .error .wouldBlock ∨ r.received = .error .timedOut) ∨
      r.received = .error .other := by
  cases hreceived : r.received with
  | packet packet =>
    cases hquoted : packet.quoted with
    | none => exact .inl ⟨packet, hreceived, hquoted⟩
    | some quoted =>
      exact .inr (.inl ⟨quoted.2, _, packet, quoted.1, hreceived, hquoted, rfl⟩)
  | error kind => cases kind <;> simp

lemma Receive.Passes.step {r : Receive} {port : UInt16} {deadline : Nat}
    (h : r.Passes port deadline) (start : Nat) : probeStep port start deadline r = none := by
  cases h with
  | rejected h => exact probeStep_of_rejected h port start deadline
  | other h hbefore =>
    obtain ⟨other, src, hne, hquotes⟩ := h
    rw [probeStep_of_quotes hquotes, if_neg hne, if_pos hbefore]
  | waiting h hbefore => rw [probeStep_of_waiting h, if_pos hbefore]
  | failed h hbefore => rw [probeStep_of_failed h, if_pos hbefore]

lemma Receive.Expires.step {r : Receive} {port : UInt16} {deadline : Nat}
    (h : r.Expires port deadline) (start : Nat) :
    probeStep port start deadline r = some none := by
  cases h with
  | other h hlate =>
    obtain ⟨other, src, hne, hquotes⟩ := h
    rw [probeStep_of_quotes hquotes, if_neg hne, if_neg (Nat.not_lt.mpr hlate)]
  | waiting h hlate => rw [probeStep_of_waiting h, if_neg (Nat.not_lt.mpr hlate)]
  | failed h hlate => rw [probeStep_of_failed h, if_neg (Nat.not_lt.mpr hlate)]

lemma Receive.Replies.step {r : Receive} {port : UInt16} {start : Nat} {reply : Reply}
    (h : r.Replies port start reply) (deadline : Nat) :
    probeStep port start deadline r = some (some reply) := by
  obtain ⟨hquotes, hrtt⟩ := h
  rw [probeStep_of_quotes hquotes, if_pos rfl, ← hrtt]

lemma receive_outcomes (r : Receive) (port : UInt16) (start deadline : Nat) :
    r.Passes port deadline ∨ r.Expires port deadline ∨ ∃ reply, r.Replies port start reply := by
  rcases receive_cases r with h | ⟨other, src, h⟩ | h | h
  · exact .inl (.rejected h)
  · by_cases hport : other = port
    · subst hport
      exact .inr (.inr ⟨⟨src, _⟩, h, rfl⟩)
    · rcases Nat.lt_or_ge r.returned deadline with hlt | hge
      · exact .inl (.other ⟨other, src, hport, h⟩ hlt)
      · exact .inr (.inl (.other ⟨other, src, hport, h⟩ hge))
  · rcases Nat.lt_or_ge r.checked deadline with hlt | hge
    · exact .inl (.waiting h hlt)
    · exact .inr (.inl (.waiting h hge))
  · rcases Nat.lt_or_ge r.returned deadline with hlt | hge
    · exact .inl (.failed h hlt)
    · exact .inr (.inl (.failed h hge))

lemma probeStep_eq_none_iff {port : UInt16} {start deadline : Nat} {r : Receive} :
    probeStep port start deadline r = none ↔ r.Passes port deadline := by
  refine ⟨fun hnone => ?_, fun h => h.step start⟩
  rcases receive_outcomes r port start deadline with h | h | ⟨reply, h⟩
  · exact h
  · rw [h.step] at hnone
    cases hnone
  · rw [h.step] at hnone
    cases hnone

lemma probeStep_eq_expired_iff {port : UInt16} {start deadline : Nat} {r : Receive} :
    probeStep port start deadline r = some none ↔ r.Expires port deadline := by
  refine ⟨fun hexpired => ?_, fun h => h.step start⟩
  rcases receive_outcomes r port start deadline with h | h | ⟨reply, h⟩
  · rw [h.step] at hexpired
    cases hexpired
  · exact h
  · rw [h.step] at hexpired
    cases hexpired

lemma probeStep_eq_reply_iff {port : UInt16} {start deadline : Nat} {r : Receive} {reply : Reply} :
    probeStep port start deadline r = some (some reply) ↔ r.Replies port start reply := by
  refine ⟨fun hreply => ?_, fun h => h.step deadline⟩
  rcases receive_outcomes r port start deadline with h | h | ⟨reply', h⟩
  · rw [h.step] at hreply
    cases hreply
  · rw [h.step] at hreply
    cases hreply
  · rw [h.step] at hreply
    obtain rfl := Option.some.inj (Option.some.inj hreply)
    exact h

/-- The socket of a probe has a port and the probe has left it. -/
structure ProbeIo.Sent (io : ProbeIo) (port : UInt16) : Prop where
  bind : io.bind = .ok ()
  localAddr : io.localAddr = .ok port
  setTtl : io.setTtl = .ok ()
  sendTo : io.sendTo = .ok ()

def ProbeIo.deadline (io : ProbeIo) (cfg : TracerouteConfig) : Nat := io.start + cfg.timeout.nanos

/-- A probe waits on after the receives before the one that decides it. -/
def ProbeIo.Decides (io : ProbeIo) (cfg : TracerouteConfig) (port : UInt16) (r : Receive) : Prop :=
  io.opened < io.deadline cfg ∧ ∃ before after, io.receives = before ++ r :: after ∧
    ∀ b ∈ before, b.Passes port (io.deadline cfg)

/-- The probe is answered. -/
structure ProbeIo.Answered (io : ProbeIo) (cfg : TracerouteConfig) (port : UInt16)
    (reply : Reply) : Prop where
  sent : io.Sent port
  replies : ∃ r, io.Decides cfg port r ∧ r.Replies port io.start reply

/-- The probe is given up at its deadline. -/
structure ProbeIo.Unanswered (io : ProbeIo) (cfg : TracerouteConfig) (port : UInt16) :
    Prop where
  sent : io.Sent port
  expires : io.deadline cfg ≤ io.opened ∨
    ∃ r, io.Decides cfg port r ∧ r.Expires port (io.deadline cfg)

lemma sendProbe_eq_ok_iff {target : IpAddr} {io : ProbeIo} {ttl : UInt8} {probe : Nat}
    {port : UInt16} : sendProbe target io ttl probe = .ok port ↔ io.Sent port := by
  have hsent : io.Sent port ↔ io.bind = .ok () ∧ io.localAddr = .ok port ∧ io.setTtl = .ok () ∧
      io.sendTo = .ok () := ⟨fun ⟨a, b, c, d⟩ => ⟨a, b, c, d⟩, fun ⟨a, b, c, d⟩ => ⟨a, b, c, d⟩⟩
  rw [hsent]
  unfold sendProbe
  cases io.bind <;> cases io.localAddr <;> cases io.setTtl <;> cases io.sendTo <;>
    simp [Except.mapError, bind, Except.bind, pure, Except.pure]

/-- The outcome of the loop of a probe is that of the receive that decides it. -/
lemma outcome_probeLoop {cfg : TracerouteConfig} {io : ProbeIo} {port : UInt16}
    (hopened : io.opened < io.deadline cfg) (outcome : Option Reply) :
    (probeLoop port io.start (io.deadline cfg) io.opened io.receives).outcome = some outcome ↔
      ∃ r, io.Decides cfg port r ∧ probeStep port io.start (io.deadline cfg) r = some outcome := by
  rw [probeLoop_eq _ _ _ _ _ hopened, EventLoop.outcome_run, List.findSome?_eq_some_iff]
  constructor
  · rintro ⟨before, r, after, hreceives, hstep, hbefore⟩
    exact ⟨r, ⟨hopened, before, after, hreceives,
      fun b hb => probeStep_eq_none_iff.mp (hbefore b hb)⟩, hstep⟩
  · rintro ⟨r, ⟨-, before, after, hreceives, hbefore⟩, hstep⟩
    exact ⟨before, r, after, hreceives, hstep,
      fun b hb => probeStep_eq_none_iff.mpr (hbefore b hb)⟩

lemma probeLoop_reply_iff {cfg : TracerouteConfig} {io : ProbeIo} {port : UInt16}
    (hsent : io.Sent port) (reply : Reply) :
    (probeLoop port io.start (io.deadline cfg) io.opened io.receives).outcome =
      some (some reply) ↔ io.Answered cfg port reply := by
  by_cases hopened : io.opened < io.deadline cfg
  · rw [outcome_probeLoop hopened]
    simp only [probeStep_eq_reply_iff]
    exact ⟨fun h => ⟨hsent, h⟩, fun h => h.replies⟩
  · rw [probeLoop, if_neg hopened]
    refine iff_of_false (fun h => by cases h) (fun h => ?_)
    obtain ⟨r, hdecides, -⟩ := h.replies
    exact hopened hdecides.1

lemma probeLoop_expired_iff {cfg : TracerouteConfig} {io : ProbeIo} {port : UInt16}
    (hsent : io.Sent port) :
    (probeLoop port io.start (io.deadline cfg) io.opened io.receives).outcome = some none ↔
      io.Unanswered cfg port := by
  by_cases hopened : io.opened < io.deadline cfg
  · rw [outcome_probeLoop hopened]
    simp only [probeStep_eq_expired_iff]
    refine ⟨fun h => ⟨hsent, .inr h⟩, fun h => ?_⟩
    exact h.expires.resolve_left (Nat.not_le.mpr hopened)
  · rw [probeLoop, if_neg hopened]
    exact iff_of_true rfl ⟨hsent, .inl (Nat.not_lt.mp hopened)⟩

/-- What a hop has seen of its probes: the reply to the first one that is answered, or nothing. -/
inductive HopSeen (cfg : TracerouteConfig) (io : Nat → ProbeIo) (ttl : UInt8)
    (probes : Nat → Prop) : RouteHop → Prop
  | answered {probe : Nat} {port : UInt16} {reply : Reply} (hprobe : probes probe)
      (hbefore : ∀ p, probes p → p < probe → ∃ port, (io p).Unanswered cfg port)
      (h : (io probe).Answered cfg port reply) :
      HopSeen cfg io ttl probes ⟨ttl, some reply.src, none, some reply.rttMs, false⟩
  | lost (h : ∀ p, probes p → ∃ port, (io p).Unanswered cfg port) :
      HopSeen cfg io ttl probes ⟨ttl, none, none, none, true⟩

/-- The first probe decides the hop, or it leaves it to the others. -/
lemma ends_probeHop_cons_iff {target : IpAddr} {cfg : TracerouteConfig} {io : Nat → ProbeIo}
    {ttl : UInt8} {probe : Nat} {probes : List Nat} {hop : RouteHop} :
    Ends (probeHop target cfg io ttl (probe :: probes)) (.ok hop) ↔
      (∃ port reply, (io probe).Answered cfg port reply ∧
        hop = ⟨ttl, some reply.src, none, some reply.rttMs, false⟩) ∨
      (∃ port, (io probe).Unanswered cfg port) ∧
        Ends (probeHop target cfg io ttl probes) (.ok hop) := by
  rw [probeHop, ends_bind_ok_iff]
  simp only [ends_lift_ok_iff, sendProbe_eq_ok_iff]
  constructor
  · rintro ⟨port, hsent, h⟩
    have hreply : ∀ reply, _ ↔ (io probe).Answered cfg port reply := probeLoop_reply_iff hsent
    have hexpired : _ ↔ (io probe).Unanswered cfg port := probeLoop_expired_iff hsent
    unfold ProbeIo.deadline at hreply hexpired
    split at h
    case h_1 => exact absurd h not_ends_none
    case h_2 reply houtcome =>
      exact .inl ⟨port, reply, (hreply reply).mp houtcome, (ends_pure_ok_iff.mp h).symm⟩
    case h_3 houtcome => exact .inr ⟨⟨port, hexpired.mp houtcome⟩, h⟩
  · rintro (⟨port, reply, h, rfl⟩ | ⟨⟨port, h⟩, hrest⟩)
    · refine ⟨port, h.sent, ?_⟩
      have houtcome := (probeLoop_reply_iff h.sent reply).mpr h
      unfold ProbeIo.deadline at houtcome
      rw [houtcome]
      exact Ends.pure _
    · refine ⟨port, h.sent, ?_⟩
      have houtcome := (probeLoop_expired_iff h.sent).mpr h
      unfold ProbeIo.deadline at houtcome
      rw [houtcome]
      exact hrest

lemma ends_probeHop_iff {target : IpAddr} {cfg : TracerouteConfig} {io : Nat → ProbeIo}
    {ttl : UInt8} {hop : RouteHop} (first count : Nat) :
    Ends (probeHop target cfg io ttl (List.range' first count)) (.ok hop) ↔
      HopSeen cfg io ttl (fun p => first ≤ p ∧ p < first + count) hop := by
  induction count generalizing first with
  | zero =>
    rw [List.range'_zero, probeHop, ends_pure_ok_iff]
    constructor
    · rintro rfl
      exact .lost (fun p hp => by omega)
    · intro h
      cases h with
      | answered hprobe => omega
      | lost => rfl
  | succ count ih =>
    rw [List.range'_succ, ends_probeHop_cons_iff, ih]
    constructor
    · rintro (⟨port, reply, h, rfl⟩ | ⟨hfirst, h⟩)
      · exact .answered (by omega) (fun p hp hlt => by omega) h
      · have hother : ∀ p, first ≤ p → p ≠ first → first + 1 ≤ p := fun p hp hne => by omega
        cases h with
        | answered hprobe hbefore h =>
          refine .answered (by omega) (fun p hp hlt => ?_) h
          by_cases hp' : p = first
          · rw [hp']
            exact hfirst
          · exact hbefore p ⟨hother p hp.1 hp', by omega⟩ hlt
        | lost h =>
          refine .lost (fun p hp => ?_)
          by_cases hp' : p = first
          · rw [hp']
            exact hfirst
          · exact h p ⟨hother p hp.1 hp', by omega⟩
    · intro h
      cases h with
      | @answered probe port reply hprobe hbefore h =>
        by_cases hp : probe = first
        · subst hp
          exact .inl ⟨port, reply, h, rfl⟩
        · refine .inr ⟨hbefore first (by omega) (by omega), ?_⟩
          exact .answered (by omega) (fun p hp' hlt => hbefore p (by omega) hlt) h
      | lost h =>
        exact .inr ⟨h first (by omega), .lost (fun p hp => h p (by omega))⟩

def RouteHop.Reaches (hop : RouteHop) (target : IpAddr) : Prop :=
  hop.addr = some target ∧ hop.lost = false

/-- The probes of a hop. -/
def Probes (cfg : TracerouteConfig) (p : Nat) : Prop := p < cfg.probesPerHop.toNat

/-- What the hops from some TTLs on have seen. -/
structure HopsSeen (target : IpAddr) (cfg : TracerouteConfig) (io : UInt8 → Nat → ProbeIo)
    (ttls : List UInt8) (hops : List RouteHop) : Prop where
  tried : hops.map RouteHop.ttl <+: ttls
  seen : ∀ hop ∈ hops, HopSeen cfg (io hop.ttl) hop.ttl (Probes cfg) hop
  goesOn : ∀ hop ∈ hops.dropLast, ¬hop.Reaches target
  stops : hops.length < ttls.length → ∃ hop, hops.getLast? = some hop ∧ hop.Reaches target

lemma HopSeen.ttl_eq {cfg : TracerouteConfig} {io : Nat → ProbeIo} {ttl : UInt8}
    {probes : Nat → Prop} {hop : RouteHop} (h : HopSeen cfg io ttl probes hop) : hop.ttl = ttl := by
  cases h with
  | answered => rfl
  | lost => rfl

lemma ends_probes_iff {target : IpAddr} {cfg : TracerouteConfig} {io : Nat → ProbeIo}
    {ttl : UInt8} {hop : RouteHop} :
    Ends (probeHop target cfg io ttl (List.range cfg.probesPerHop.toNat)) (.ok hop) ↔
      HopSeen cfg io ttl (Probes cfg) hop := by
  have hprobes : (fun p => 0 ≤ p ∧ p < 0 + cfg.probesPerHop.toNat) = Probes cfg := by
    funext p
    rw [Nat.zero_add]
    exact propext (and_iff_right (Nat.zero_le p))
  rw [List.range_eq_range', ends_probeHop_iff, hprobes]

/-- The hop of the first TTL, and those of the others where it is not the last one. -/
lemma hopsSeen_cons_iff {target : IpAddr} {cfg : TracerouteConfig} {io : UInt8 → Nat → ProbeIo}
    {ttl : UInt8} {ttls : List UInt8} {hops : List RouteHop} :
    HopsSeen target cfg io (ttl :: ttls) hops ↔
      ∃ hop, HopSeen cfg (io ttl) ttl (Probes cfg) hop ∧
        (hop.Reaches target ∧ hops = [hop] ∨
          ¬hop.Reaches target ∧ ∃ rest, HopsSeen target cfg io ttls rest ∧ hops = hop :: rest) := by
  constructor
  · intro h
    rcases hops with - | ⟨hop, rest⟩
    · obtain ⟨hop, hlast, -⟩ := h.stops (Nat.succ_pos _)
      cases hlast
    · obtain ⟨httl, htried⟩ := List.cons_prefix_cons.mp h.tried
      obtain ⟨hseen, hrest⟩ := List.forall_mem_cons.mp h.seen
      rw [httl] at hseen
      refine ⟨hop, hseen, ?_⟩
      by_cases hreaches : hop.Reaches target
      · rcases rest with - | ⟨next, rest⟩
        · exact .inl ⟨hreaches, rfl⟩
        · exact absurd hreaches (h.goesOn hop List.mem_cons_self)
      · refine .inr ⟨hreaches, rest, ⟨htried, hrest, fun other hother => ?_, fun hlt => ?_⟩, rfl⟩
        · refine h.goesOn other ?_
          rcases rest with - | ⟨next, rest⟩
          · cases hother
          · exact List.mem_cons_of_mem hop hother
        · obtain ⟨last, hlast, hlastReaches⟩ := h.stops (Nat.succ_lt_succ hlt)
          rcases rest with - | ⟨next, rest⟩
          · obtain rfl := Option.some.inj hlast
            exact absurd hlastReaches hreaches
          · exact ⟨last, hlast, hlastReaches⟩
  · rintro ⟨hop, hseen, ⟨hreaches, rfl⟩ | ⟨hreaches, rest, h, rfl⟩⟩
    · have httl := hseen.ttl_eq
      refine ⟨?_, ?_, (by simp), fun _ => ⟨hop, rfl, hreaches⟩⟩
      · rw [List.map_singleton, httl]
        exact List.prefix_append [ttl] ttls
      · intro other hother
        rw [List.mem_singleton.mp hother, httl]
        exact hseen
    · have httl := hseen.ttl_eq
      refine ⟨?_, ?_, ?_, ?_⟩
      · rw [List.map_cons, httl]
        exact List.cons_prefix_cons.mpr ⟨rfl, h.tried⟩
      · refine List.forall_mem_cons.mpr ⟨?_, h.seen⟩
        rw [httl]
        exact hseen
      · intro other hother
        rcases rest with - | ⟨next, rest⟩
        · cases hother
        · rcases List.mem_cons.mp hother with rfl | hother
          · exact hreaches
          · exact h.goesOn other hother
      · intro hlt
        obtain ⟨last, hlast, hlastReaches⟩ := h.stops (Nat.lt_of_succ_lt_succ hlt)
        rcases rest with - | ⟨next, rest⟩
        · cases hlast
        · exact ⟨last, hlast, hlastReaches⟩

lemma ends_traceHops_iff {target : IpAddr} {cfg : TracerouteConfig} {io : UInt8 → Nat → ProbeIo}
    {ttls : List UInt8} {hops : List RouteHop} :
    Ends (traceHops target cfg io ttls) (.ok hops) ↔ HopsSeen target cfg io ttls hops := by
  induction ttls generalizing hops with
  | nil =>
    rw [traceHops, ends_pure_ok_iff]
    constructor
    · rintro rfl
      exact ⟨List.prefix_rfl, by simp, by simp, fun hlt => absurd hlt (Nat.not_lt_zero _)⟩
    · intro h
      have hnil := List.prefix_nil.mp h.tried
      exact (List.map_eq_nil_iff.mp hnil).symm
  | cons ttl ttls ih =>
    rw [traceHops, ends_bind_ok_iff, hopsSeen_cons_iff]
    refine exists_congr (fun hop => and_congr ends_probes_iff ?_)
    by_cases hreaches : hop.addr = some target ∧ hop.lost = false
    · have hstop : hop.Reaches target := hreaches
      rw [if_pos hreaches, ends_pure_ok_iff, eq_comm]
      simp [hstop]
    · have hgo : ¬hop.Reaches target := hreaches
      rw [if_neg hreaches, ends_bind_ok_iff]
      simp only [hgo, false_and, false_or, not_false_eq_true, true_and, ends_pure_ok_iff]
      refine exists_congr (fun rest => and_congr ih eq_comm)

/-- What a trace that ends has seen: the TTLs from one on, up to the target or to the limit. -/
structure Traced (target : IpAddr) (cfg : TracerouteConfig) (io : UInt8 → Nat → ProbeIo)
    (hops : List RouteHop) : Prop where
  ttls : hops.map (fun hop => hop.ttl.toNat) = List.range' 1 hops.length
  length_le : hops.length ≤ cfg.maxHops.toNat
  seen : ∀ hop ∈ hops, HopSeen cfg (io hop.ttl) hop.ttl (Probes cfg) hop
  goesOn : ∀ hop ∈ hops.dropLast, ¬hop.Reaches target
  stops : hops.length < cfg.maxHops.toNat → ∃ hop, hops.getLast? = some hop ∧ hop.Reaches target

lemma map_ofNat_range' {limit : UInt8} {count : Nat} (h : count ≤ limit.toNat) :
    ((List.range' 1 count).map UInt8.ofNat).map UInt8.toNat = List.range' 1 count := by
  have hlimit := limit.toNat_lt
  rw [List.map_map, List.map_congr_left, List.map_id]
  intro n hn
  obtain ⟨-, hlt⟩ := List.mem_range'_1.mp hn
  change (UInt8.ofNat n).toNat = n
  rw [UInt8.toNat_ofNat', Nat.mod_eq_of_lt (by omega)]

/-- The first TTLs up to a limit are those from one on. -/
lemma prefix_ttls_iff {ttls : List UInt8} {limit : UInt8} :
    ttls <+: (List.range' 1 limit.toNat).map UInt8.ofNat ↔
      ttls.map UInt8.toNat = List.range' 1 ttls.length ∧ ttls.length ≤ limit.toNat := by
  constructor
  · intro h
    have hle := h.length_le
    rw [List.length_map, List.length_range'] at hle
    refine ⟨?_, hle⟩
    have htake := List.prefix_iff_eq_take.mp h
    rw [← List.map_take, List.take_range'_of_length_ge hle] at htake
    rw [htake, map_ofNat_range' hle, List.length_map, List.length_range']
  · rintro ⟨hmap, hle⟩
    have httls : ttls = (List.range' 1 ttls.length).map UInt8.ofNat := by
      rw [← hmap, List.map_map, List.map_congr_left (g := id), List.map_id]
      intro ttl _
      exact UInt8.ofNat_toNat
    rw [httls]
    refine List.IsPrefix.map _ ⟨List.range' (1 + ttls.length) (limit.toNat - ttls.length), ?_⟩
    rw [List.range'_append_1, Nat.add_sub_of_le hle]

/-- A trace ends with some hops where it has seen them. -/
theorem ends_tracerouteLinux_iff {target : IpAddr} {cfg : TracerouteConfig}
    {socket : Except String Unit} {io : UInt8 → Nat → ProbeIo} {hops : List RouteHop} :
    Ends (tracerouteLinux target cfg socket io) (.ok hops) ↔
      target.isIpv4 = true ∧ socket = .ok () ∧ Traced target cfg io hops := by
  have hseen : HopsSeen target cfg io ((List.range' 1 cfg.maxHops.toNat).map UInt8.ofNat) hops ↔
      Traced target cfg io hops := by
    have hlength : ((List.range' 1 cfg.maxHops.toNat).map UInt8.ofNat).length =
        cfg.maxHops.toNat := by
      rw [List.length_map, List.length_range']
    have htried := @prefix_ttls_iff (hops.map RouteHop.ttl) cfg.maxHops
    rw [List.map_map, List.length_map] at htried
    constructor
    · intro h
      obtain ⟨httls, hle⟩ := htried.mp h.tried
      exact ⟨httls, hle, h.seen, h.goesOn, fun hlt => h.stops (by rwa [hlength])⟩
    · intro h
      refine ⟨htried.mpr ⟨h.ttls, h.length_le⟩, h.seen, h.goesOn, fun hlt => h.stops ?_⟩
      rwa [hlength] at hlt
  rw [← hseen]
  cases target with
  | v6 ip => exact iff_of_false (fun h => by cases h) (fun h => by cases h.1)
  | v4 ip =>
    rw [tracerouteLinux, ends_bind_ok_iff]
    simp only [ends_lift_ok_iff, ends_traceHops_iff]
    cases socket with
    | error e => simp [Except.mapError]
    | ok u => simp [Except.mapError, IpAddr.isIpv4]

end IpTools

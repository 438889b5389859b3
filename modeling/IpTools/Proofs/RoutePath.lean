import IpTools.Proofs.IcmpErrors
import IpTools.Proofs.RouteTrace
import Mathlib.Data.Nat.Find

/-!
# Traces over a network

All probes of a trace wait on one raw socket. It receives the answers to the probe that waits, late
answers to other probes and what other programs of the machine cause. A trace reports the route of
its probes for all that.
-/

namespace IpTools

open BoundedLoop

/-- The packet that a receive completes with. -/
def Receive.packet? (r : Receive) : Option Packet :=
  match r.received with
  | .packet packet => some packet
  | .error _ => none

/-- The packet arrives at the raw socket for the probe that waits. -/
def ProbeIo.Arrives (io : ProbeIo) (packet : Packet) : Prop :=
  ∃ r ∈ io.receives, r.packet? = some packet

/-- An ICMP error that quotes a UDP datagram, by its bytes. -/
def Packet.Quotes (packet : Packet) (kind : UInt8) (port : UInt16) : Prop :=
  UdpError packet.bytes packet.bytes.length kind port

/-- A network between the sockets of some probes and the raw socket. -/
structure Network {ι : Type} (io : ι → ProbeIo) where
  /-- Where a probe is answered. -/
  route : ι → IpAddr
  /-- The probe that a packet answers, if it is one of these, while a probe waits. -/
  origin : ι → Packet → Option ι
  src_eq : ∀ i packet j, (io i).Arrives packet → origin i packet = some j →
    .v4 packet.src = route j
  /-- No IP header is shorter than its five words. -/
  headers : ∀ i packet, (io i).Arrives packet → SoundHeaders packet.bytes
  /-- An answer quotes the datagram that it answers. -/
  quotes : ∀ i packet j, (io i).Arrives packet → origin i packet = some j →
    ∃ kind port, (io j).localAddr = .ok port ∧ packet.Quotes kind port
  /-- A late answer is to a probe that had another port. -/
  late : ∀ i packet j, (io i).Arrives packet → origin i packet = some j → j ≠ i →
    (io j).localAddr ≠ (io i).localAddr
  /-- The port of a probe that waits is that of no other datagram. -/
  foreign : ∀ i packet, (io i).Arrives packet → origin i packet = none →
    ∀ kind port, packet.Quotes kind port → (io i).localAddr ≠ .ok port

variable {ι : Type} {io : ι → ProbeIo}

/-- An answer to the probe arrives while the probe waits. -/
def Network.Hears (net : Network io) (cfg : TracerouteConfig) (i : ι) : Prop :=
  ∃ port r packet, (io i).Sent port ∧ (io i).Decides cfg port r ∧ r.packet? = some packet ∧
    net.origin i packet = some i

/-- The first probe of a hop whose answer arrives while it waits. -/
def Network.FirstHeard (net : Network io) (cfg : TracerouteConfig) (probes : Nat → ι)
    (probe : Nat) : Prop :=
  Probes cfg probe ∧ net.Hears cfg (probes probe) ∧ ∀ p < probe, ¬net.Hears cfg (probes p)

lemma packet?_eq_some_iff {r : Receive} {packet : Packet} :
    r.packet? = some packet ↔ r.received = .packet packet := by
  unfold Receive.packet?
  cases r.received with
  | packet p => simp
  | error kind => simp

lemma ProbeIo.Decides.mem {io : ProbeIo} {cfg : TracerouteConfig} {port : UInt16} {r : Receive}
    (h : io.Decides cfg port r) : r ∈ io.receives := by
  obtain ⟨-, before, after, hreceives, -⟩ := h
  rw [hreceives]
  exact List.mem_append_right before List.mem_cons_self

/-- What the parser makes of a packet with sound headers is what the packet quotes. -/
lemma quoted_eq_some_iff {packet : Packet} (h : SoundHeaders packet.bytes) {kind : UInt8}
    {port : UInt16} : packet.quoted = some (kind, port) ↔ packet.Quotes kind port := by
  unfold Packet.quoted Packet.Quotes
  rw [Option.join_eq_some_iff, h.run_iff]

/-- While a probe waits, only the answers to it quote its port. -/
lemma Network.origin_eq (net : Network io) {i : ι} {packet : Packet} {kind : UInt8}
    {port : UInt16} (harrives : (io i).Arrives packet) (hport : (io i).localAddr = .ok port)
    (hquotes : packet.Quotes kind port) : net.origin i packet = some i := by
  cases horigin : net.origin i packet with
  | none => exact absurd hport (net.foreign i packet harrives horigin kind port hquotes)
  | some j =>
    by_contra hne
    have hlate := net.late i packet j harrives horigin (fun hj => hne (congrArg some hj))
    obtain ⟨kind', port', hport', hquotes'⟩ := net.quotes i packet j harrives horigin
    have hsame : port = port' := UInt16.toNat_inj.mp (hquotes.port.trans hquotes'.port.symm)
    rw [hport', hport, hsame] at hlate
    exact hlate rfl

/-- A reply that a probe takes is an answer to it, from its route. -/
lemma Network.answered (net : Network io) {cfg : TracerouteConfig} {i : ι} {port : UInt16}
    {reply : Reply} (h : (io i).Answered cfg port reply) :
    net.Hears cfg i ∧ reply.src = net.route i := by
  obtain ⟨hsent, r, hdecides, ⟨packet, kind, hpacket, hquoted, hsrc⟩, -⟩ := h
  have hpacket? := packet?_eq_some_iff.mpr hpacket
  have harrives : (io i).Arrives packet := ⟨r, hdecides.mem, hpacket?⟩
  have hquotes := (quoted_eq_some_iff (net.headers i packet harrives)).mp hquoted
  have horigin := net.origin_eq harrives hsent.localAddr hquotes
  exact ⟨⟨port, r, packet, hsent, hdecides, hpacket?, horigin⟩,
    hsrc.trans (net.src_eq i packet i harrives horigin)⟩

/-- A probe that is given up has not heard of its answer. -/
lemma Network.unanswered (net : Network io) {cfg : TracerouteConfig} {i : ι} {port : UInt16}
    (h : (io i).Unanswered cfg port) : ¬net.Hears cfg i := by
  rintro ⟨port', r, packet, hsent, hdecides, hpacket, horigin⟩
  have harrives : (io i).Arrives packet := ⟨r, hdecides.mem, hpacket⟩
  obtain ⟨kind, port'', hport, herror⟩ := net.quotes i packet i harrives horigin
  rw [hsent.localAddr] at hport
  obtain rfl := Except.ok.inj hport
  have hquoted := (quoted_eq_some_iff (net.headers i packet harrives)).mpr herror
  have hquotes : r.Quotes port' (.v4 packet.src) :=
    ⟨packet, kind, packet?_eq_some_iff.mp hpacket, hquoted, rfl⟩
  have hreply : (io i).Answered cfg port' ⟨.v4 packet.src, _⟩ := ⟨hsent, r, hdecides, hquotes, rfl⟩
  have hsame : port = port' := Except.ok.inj (h.sent.localAddr.symm.trans hsent.localAddr)
  have hexpired := (probeLoop_expired_iff h.sent).mpr h
  rw [hsame, (probeLoop_reply_iff hsent _).mpr hreply] at hexpired
  cases hexpired

/-- The address at which the first probe of a hop is heard. -/
def Network.HeardAt (net : Network io) (cfg : TracerouteConfig) (probes : Nat → ι)
    (addr : IpAddr) : Prop :=
  ∃ probe, net.FirstHeard cfg probes probe ∧ addr = net.route (probes probe)

/-- A hop as the network has it. -/
structure Network.Reports (net : Network io) (cfg : TracerouteConfig) (probes : Nat → ι)
    (hop : RouteHop) : Prop where
  addr : ∀ addr, hop.addr = some addr ↔ net.HeardAt cfg probes addr
  lost : hop.lost = true ↔ ∀ probe, Probes cfg probe → ¬net.Hears cfg (probes probe)

lemma Network.HeardAt.unique {net : Network io} {cfg : TracerouteConfig} {probes : Nat → ι}
    {addr addr' : IpAddr} (h : net.HeardAt cfg probes addr) (h' : net.HeardAt cfg probes addr') :
    addr = addr' := by
  obtain ⟨probe, ⟨-, hheard, hfirst⟩, rfl⟩ := h
  obtain ⟨probe', ⟨-, hheard', hfirst'⟩, rfl⟩ := h'
  rcases Nat.lt_trichotomy probe probe' with hlt | rfl | hgt
  · exact absurd hheard (hfirst' probe hlt)
  · rfl
  · exact absurd hheard' (hfirst probe' hgt)

lemma Network.reports (net : Network io) {cfg : TracerouteConfig} {probes : Nat → ι}
    {ttl : UInt8} {hop : RouteHop}
    (h : HopSeen cfg (fun p => io (probes p)) ttl (Probes cfg) hop) :
    net.Reports cfg probes hop := by
  cases h with
  | @answered probe port reply hprobe hbefore h =>
    obtain ⟨hheard, hsrc⟩ := net.answered h
    have hfirst : net.FirstHeard cfg probes probe := by
      refine ⟨hprobe, hheard, fun p hp => ?_⟩
      obtain ⟨port, hunanswered⟩ := hbefore p (Nat.lt_trans hp hprobe) hp
      exact net.unanswered hunanswered
    have hat : net.HeardAt cfg probes reply.src := ⟨probe, hfirst, hsrc⟩
    refine ⟨fun addr => ⟨?_, fun haddr => congrArg some (hat.unique haddr)⟩, ?_⟩
    · rintro heq
      rwa [← Option.some.inj heq]
    · exact iff_of_false (by simp) (fun hnone => hnone probe hprobe hheard)
  | lost h =>
    have hnone : ∀ probe, Probes cfg probe → ¬net.Hears cfg (probes probe) := by
      intro probe hprobe
      obtain ⟨port, hunanswered⟩ := h probe hprobe
      exact net.unanswered hunanswered
    refine ⟨fun addr => iff_of_false (by simp) ?_, iff_of_true rfl hnone⟩
    rintro ⟨probe, ⟨hprobe, hheard, -⟩, -⟩
    exact hnone probe hprobe hheard

/-- A trace gets as far as a TTL where the target is not heard at a lower one. -/
def Network.Tries (net : Network io) (target : IpAddr) (cfg : TracerouteConfig)
    (probes : UInt8 → Nat → ι) (ttl : UInt8) : Prop :=
  0 < ttl.toNat ∧ ttl.toNat ≤ cfg.maxHops.toNat ∧
    ∀ earlier : UInt8, 0 < earlier.toNat → earlier.toNat < ttl.toNat →
      ¬net.HeardAt cfg (probes earlier) target

/-- The hops are those of the route, from the first one on. -/
structure Network.Follows (net : Network io) (target : IpAddr) (cfg : TracerouteConfig)
    (probes : UInt8 → Nat → ι) (hops : List RouteHop) : Prop where
  ttls : hops.map (fun hop => hop.ttl.toNat) = List.range' 1 hops.length
  tried : ∀ ttl, ttl ∈ hops.map RouteHop.ttl ↔ net.Tries target cfg probes ttl
  reports : ∀ hop ∈ hops, net.Reports cfg (probes hop.ttl) hop

/-- The hop of a TTL is at its place. -/
lemma Traced.getElem_ttl {target : IpAddr} {cfg : TracerouteConfig}
    {io : UInt8 → Nat → ProbeIo} {hops : List RouteHop} (h : Traced target cfg io hops) {k : Nat}
    (hk : k < hops.length) : hops[k].ttl.toNat = k + 1 := by
  have hget := congrArg (fun l : List Nat => l[k]?) h.ttls
  rw [List.getElem?_map, List.getElem?_eq_getElem hk, List.getElem?_range' hk] at hget
  have hkth : hops[k].ttl.toNat = 1 + 1 * k := Option.some.inj hget
  omega

lemma Traced.mem_ttls_iff {target : IpAddr} {cfg : TracerouteConfig}
    {io : UInt8 → Nat → ProbeIo} {hops : List RouteHop} (h : Traced target cfg io hops)
    (ttl : UInt8) :
    ttl ∈ hops.map RouteHop.ttl ↔ 0 < ttl.toNat ∧ ttl.toNat ≤ hops.length := by
  constructor
  · intro hmem
    obtain ⟨k, hk, hget⟩ := List.mem_iff_getElem.mp hmem
    rw [List.length_map] at hk
    rw [List.getElem_map] at hget
    have hkth := h.getElem_ttl hk
    rw [hget] at hkth
    omega
  · rintro ⟨hpos, hle⟩
    have hk : ttl.toNat - 1 < hops.length := by omega
    have hkth := h.getElem_ttl hk
    refine List.mem_map.mpr ⟨hops[ttl.toNat - 1], List.getElem_mem hk, ?_⟩
    rw [← UInt8.toNat_inj]
    omega

lemma Network.Reports.reaches_iff {net : Network io} {cfg : TracerouteConfig} {probes : Nat → ι}
    {hop : RouteHop} (h : net.Reports cfg probes hop) (target : IpAddr) :
    hop.Reaches target ↔ net.HeardAt cfg probes target := by
  refine ⟨fun hreaches => (h.addr target).mp hreaches.1, fun hheard => ?_⟩
  refine ⟨(h.addr target).mpr hheard, ?_⟩
  obtain ⟨probe, ⟨hprobe, hhears, -⟩, -⟩ := hheard
  by_contra hlost
  exact h.lost.mp (Bool.not_eq_false _ ▸ hlost) probe hprobe hhears

lemma Network.follows (net : Network io) {target : IpAddr} {cfg : TracerouteConfig}
    {probes : UInt8 → Nat → ι} {hops : List RouteHop}
    (h : Traced target cfg (fun ttl p => io (probes ttl p)) hops) :
    net.Follows target cfg probes hops := by
  have hreports : ∀ hop ∈ hops, net.Reports cfg (probes hop.ttl) hop :=
    fun hop hhop => net.reports (h.seen hop hhop)
  refine ⟨h.ttls, fun ttl => ?_, hreports⟩
  have hlimit := cfg.maxHops.toNat_lt
  have hle := h.length_le
  rw [h.mem_ttls_iff]
  constructor
  · rintro ⟨hpos, httl⟩
    refine ⟨hpos, Nat.le_trans httl hle, fun earlier hearlier hlt hheard => ?_⟩
    have hk : earlier.toNat - 1 < hops.dropLast.length := by
      rw [List.length_dropLast]
      omega
    have hkth := h.getElem_ttl (k := earlier.toNat - 1) (by omega)
    have hmem := List.getElem_mem hk
    rw [List.getElem_dropLast] at hmem
    have hsame : hops[earlier.toNat - 1].ttl = earlier := by
      rw [← UInt8.toNat_inj]
      omega
    refine h.goesOn _ hmem (((hreports _ (List.getElem_mem _)).reaches_iff target).mpr ?_)
    rwa [hsame]
  · rintro ⟨hpos, httl, hnone⟩
    refine ⟨hpos, Nat.not_lt.mp (fun hlt => ?_)⟩
    obtain ⟨last, hlast, hreaches⟩ := h.stops (by omega)
    have hne : hops.length ≠ 0 := by
      rintro hzero
      rw [List.length_eq_zero_iff.mp hzero] at hlast
      cases hlast
    have hk : hops.length - 1 < hops.length := by omega
    rw [List.getLast?_eq_getElem?, List.getElem?_eq_getElem hk] at hlast
    have hkth := h.getElem_ttl hk
    rw [Option.some.inj hlast] at hkth
    have hmem : last ∈ hops := Option.some.inj hlast ▸ List.getElem_mem hk
    exact hnone last.ttl (by omega) (by omega)
      (((hreports last hmem).reaches_iff target).mp hreaches)

/-- What a trace ends with is the route of its probes, whatever else the raw socket receives: one
hop for every TTL up to the first one where the target itself is heard, with the address at which
the first probe of the hop is heard. -/
theorem trace_follows_route {target : IpAddr} {cfg : TracerouteConfig}
    {socket : Except String Unit} {io : UInt8 → Nat → ProbeIo} {hops : List RouteHop}
    (net : Network (fun i : UInt8 × Nat => io i.1 i.2))
    (h : Ends (tracerouteLinux target cfg socket io) (.ok hops)) :
    net.Follows target cfg Prod.mk hops :=
  net.follows (ends_tracerouteLinux_iff.mp h).2.2

/-! ### A network of two probes -/

/-- A socket with a port, and the packets that arrive one after the other. -/
def waiting (port : UInt16) (packets : List Packet) : ProbeIo where
  bind := .ok ()
  localAddr := .ok port
  setTtl := .ok ()
  sendTo := .ok ()
  start := 0
  opened := 0
  receives := packets.map (fun packet =>
    { started := 0, completed := 5000000, received := .packet packet, checked := 5000000,
      returned := 5000000, started_le := Nat.zero_le _, completed_le := Nat.le_refl _,
      checked_le := Nat.le_refl _ })

/-- A probe that is not sent. -/
def unsent : ProbeIo := ⟨.error "", .error "", .error "", .error "", 0, 0, []⟩

/-- A router's error with the given bytes of the quoted port. -/
def routerError (src : Ipv4Addr) (high low : UInt8) : Packet :=
  ⟨src, (timeExceeded 0x45).take 48 ++ [high, low, 0x82, 0x9a], by simp, by simp [timeExceeded]⟩

def firstError : Packet := routerError (.new 192 0 2 1) 0x9c 0x41
def secondError : Packet := routerError (.new 198 51 100 7) 0x9c 0x42

lemma quotes_firstError : firstError.Quotes 11 0x9c41 :=
  ⟨by decide, by decide, by decide, by decide, by decide, by decide, by decide, by decide⟩

lemma quotes_secondError : secondError.Quotes 11 0x9c42 :=
  ⟨by decide, by decide, by decide, by decide, by decide, by decide, by decide, by decide⟩

/-- It is not an error. -/
lemma not_quotes_echoReply {kind : UInt8} {port : UInt16} : ¬echoReply.Quotes kind port := by
  intro h
  have hkind := h.kind
  rw [h.type] at hkind
  revert hkind
  decide

section TwoProbes

variable (first second : ι)

/-- The probe that a packet answers. -/
def probeOf (packet : Packet) : Option ι :=
  if packet = firstError then some first else if packet = secondError then some second else none

lemma probeOf_echoReply : probeOf first second echoReply = none := by
  have hfirst : echoReply ≠ firstError := by decide
  have hsecond : echoReply ≠ secondError := by decide
  unfold probeOf
  rw [if_neg hfirst, if_neg hsecond]

lemma probeOf_firstError : probeOf first second firstError = some first := if_pos rfl

lemma probeOf_secondError : probeOf first second secondError = some second := by
  have hne : secondError ≠ firstError := by decide
  unfold probeOf
  rw [if_neg hne, if_pos rfl]

variable [DecidableEq ι]

/-- While the first probe waits, another program gets an answer. While the second one waits, the
first answer comes again. -/
def twoProbes (i : ι) : ProbeIo :=
  if i = first then waiting 0x9c41 [echoReply, firstError]
  else if i = second then waiting 0x9c42 [firstError, secondError] else unsent

lemma arrives_waiting_iff {port : UInt16} {packets : List Packet} {packet : Packet} :
    (waiting port packets).Arrives packet ↔ packet ∈ packets := by
  unfold ProbeIo.Arrives waiting
  simp [Receive.packet?]

lemma arrives_twoProbes {i : ι} {packet : Packet} (h : (twoProbes first second i).Arrives packet) :
    i = first ∧ (packet = echoReply ∨ packet = firstError) ∨
      i = second ∧ (packet = firstError ∨ packet = secondError) := by
  unfold twoProbes at h
  split at h
  case isTrue hi =>
    rw [arrives_waiting_iff] at h
    exact .inl ⟨hi, by simpa using h⟩
  case isFalse =>
    split at h
    case isTrue hi =>
      rw [arrives_waiting_iff] at h
      exact .inr ⟨hi, by simpa using h⟩
    case isFalse =>
      obtain ⟨r, hr, -⟩ := h
      cases hr

lemma twoProbes_first :
    twoProbes first second first = waiting 0x9c41 [echoReply, firstError] := if_pos rfl

lemma twoProbes_second (h : first ≠ second) :
    twoProbes first second second = waiting 0x9c42 [firstError, secondError] := by
  unfold twoProbes
  rw [if_neg (Ne.symm h), if_pos rfl]

/-- The packets of the two probes. -/
def twoProbesNetwork (h : first ≠ second) : Network (twoProbes first second) where
  route i := if i = first then .v4 firstError.src else .v4 secondError.src
  origin _ packet := probeOf first second packet
  src_eq i packet j harrives horigin := by
    rcases arrives_twoProbes first second harrives with ⟨-, rfl | rfl⟩ | ⟨-, rfl | rfl⟩
    · rw [probeOf_echoReply] at horigin
      cases horigin
    · rw [probeOf_firstError] at horigin
      rw [← Option.some.inj horigin, if_pos rfl]
    · rw [probeOf_firstError] at horigin
      rw [← Option.some.inj horigin, if_pos rfl]
    · rw [probeOf_secondError] at horigin
      rw [← Option.some.inj horigin, if_neg (Ne.symm h)]
  headers i packet harrives := by
    rcases arrives_twoProbes first second harrives with ⟨-, rfl | rfl⟩ | ⟨-, rfl | rfl⟩
    · exact ⟨by decide, by decide⟩
    · exact ⟨by decide, by decide⟩
    · exact ⟨by decide, by decide⟩
    · exact ⟨by decide, by decide⟩
  quotes i packet j harrives horigin := by
    have hfirst : ∃ kind port, (twoProbes first second first).localAddr = .ok port ∧
        firstError.Quotes kind port := by
      rw [twoProbes_first]
      exact ⟨11, 0x9c41, rfl, quotes_firstError⟩
    rcases arrives_twoProbes first second harrives with ⟨-, rfl | rfl⟩ | ⟨-, rfl | rfl⟩
    · rw [probeOf_echoReply] at horigin
      cases horigin
    · rw [probeOf_firstError] at horigin
      rwa [← Option.some.inj horigin]
    · rw [probeOf_firstError] at horigin
      rwa [← Option.some.inj horigin]
    · rw [probeOf_secondError] at horigin
      rw [← Option.some.inj horigin, twoProbes_second first second h]
      exact ⟨11, 0x9c42, rfl, quotes_secondError⟩
  late i packet j harrives horigin hne := by
    rcases arrives_twoProbes first second harrives with ⟨rfl, rfl | rfl⟩ | ⟨rfl, rfl | rfl⟩
    · rw [probeOf_echoReply] at horigin
      cases horigin
    · rw [probeOf_firstError] at horigin
      exact absurd (Option.some.inj horigin).symm hne
    · rw [probeOf_firstError] at horigin
      rw [← Option.some.inj horigin, twoProbes_first, twoProbes_second first i h]
      simp [waiting]
    · rw [probeOf_secondError] at horigin
      exact absurd (Option.some.inj horigin).symm hne
  foreign i packet harrives horigin kind port hquotes := by
    rcases arrives_twoProbes first second harrives with ⟨-, rfl | rfl⟩ | ⟨-, rfl | rfl⟩
    · exact absurd hquotes not_quotes_echoReply
    · rw [probeOf_firstError] at horigin
      cases horigin
    · rw [probeOf_firstError] at horigin
      cases horigin
    · rw [probeOf_secondError] at horigin
      cases horigin

/-- One probe for each hop, with a timeout of one second. -/
def oneProbe (maxHops : UInt8) : TracerouteConfig := ⟨maxHops, ⟨1000000000⟩, 1⟩

lemma answered_first (maxHops : UInt8) :
    (twoProbes first second first).Answered (oneProbe maxHops) 0x9c41 ⟨.v4 firstError.src, 5⟩ := by
  have hopened : 0 < 0 + 1000000000 := by decide
  rw [twoProbes_first]
  refine ⟨⟨rfl, rfl, rfl, rfl⟩, _, ⟨hopened, [_], [], rfl, fun b hb => ?_⟩,
    ⟨firstError, 11, rfl, by decide, rfl⟩, by decide⟩
  rw [List.mem_singleton.mp hb]
  exact .rejected ⟨echoReply, rfl, by decide⟩

/-- The answer to the first probe passes by the second one. -/
lemma answered_second (h : first ≠ second) (maxHops : UInt8) :
    (twoProbes first second second).Answered (oneProbe maxHops) 0x9c42
      ⟨.v4 secondError.src, 5⟩ := by
  have hopened : 0 < 0 + 1000000000 := by decide
  have hbefore : 5000000 < 0 + 1000000000 := by decide
  rw [twoProbes_second first second h]
  refine ⟨⟨rfl, rfl, rfl, rfl⟩, _, ⟨hopened, [_], [], rfl, fun b hb => ?_⟩,
    ⟨secondError, 11, rfl, by decide, rfl⟩, by decide⟩
  rw [List.mem_singleton.mp hb]
  exact .other ⟨0x9c41, .v4 firstError.src, by decide, firstError, 11, rfl, by decide, rfl⟩ hbefore

end TwoProbes

/-- The hop of a reply. -/
def Reply.hop (reply : Reply) (ttl : UInt8) : RouteHop :=
  ⟨ttl, some reply.src, none, some reply.rttMs, false⟩

/-- A hop whose only probe is answered. -/
lemma ProbeIo.Answered.hopSeen {io : Nat → ProbeIo} {maxHops : UInt8} {port : UInt16}
    {reply : Reply} (h : (io 0).Answered (oneProbe maxHops) port reply) (ttl : UInt8) :
    HopSeen (oneProbe maxHops) io ttl (Probes (oneProbe maxHops)) (reply.hop ttl) := by
  have hone : 0 < (1 : UInt8).toNat := by decide
  exact .answered hone (fun p _ hlt => absurd hlt (Nat.not_lt_zero p)) h

/-- The target answers at the second hop, and the first hop is not credited with it. -/
theorem trace_follows_route_twoHops :
    (twoProbesNetwork ((1, 0) : UInt8 × Nat) (2, 0) (by decide)).Follows (.v4 secondError.src)
      (oneProbe 30) Prod.mk
      [Reply.hop ⟨.v4 firstError.src, 5⟩ 1, Reply.hop ⟨.v4 secondError.src, 5⟩ 2] := by
  refine @trace_follows_route _ _ (.ok ()) (fun ttl p => twoProbes (1, 0) (2, 0) (ttl, p)) _ _
    (ends_tracerouteLinux_iff.mpr ⟨rfl, rfl, by decide, by decide, ?_, ?_, fun _ => ?_⟩)
  · refine List.forall_iff_forall_mem.mp ⟨?_, ?_⟩
    · exact (answered_first (1, 0) (2, 0) 30).hopSeen 1
    · exact (answered_second (1, 0) (2, 0) (by decide) 30).hopSeen 2
  · intro hop hhop hreaches
    rw [List.mem_singleton.mp hhop] at hreaches
    exact absurd hreaches.1 (by decide)
  · exact ⟨_, rfl, rfl, rfl⟩

/-! ### Repeated traces -/

/-- A trace finds an address at a TTL. -/
def Network.Finds (net : Network io) (target : IpAddr) (cfg : TracerouteConfig)
    (probes : UInt8 → Nat → ι) (ttl : UInt8) (addr : IpAddr) : Prop :=
  net.Tries target cfg probes ttl ∧ net.HeardAt cfg (probes ttl) addr

open Classical in
/-- The statistics of a number of traces are those of the routes of their probes. -/
structure Network.FollowsAll (net : Network io) (target : IpAddr) (cfg : TracerouteConfig)
    (probes : Nat → UInt8 → Nat → ι) (count : Nat) (r : RouteRepeat) : Prop where
  runs : r.runs = count
  sorted : (r.hops.map RouteHopStats.ttl).Pairwise (· < ·)
  tried : ∀ ttl, ttl ∈ r.hops.map RouteHopStats.ttl ↔
    ∃ run < count, net.Tries target cfg (probes run) ttl
  answered : ∀ s ∈ r.hops, s.answered.toNat = min 65535
    ((List.range count).countP (fun run => ∃ addr, net.Finds target cfg (probes run) s.ttl addr))
  addrs : ∀ s ∈ r.hops, ∀ addr, addr ∈ s.addrs ↔
    ∃ run < count, net.Finds target cfg (probes run) s.ttl addr
  pathChanged : ∀ s ∈ r.hops, s.pathChanged = true ↔
    ∃ run < count, ∃ run' < count, ∃ addr addr', addr ≠ addr' ∧
      net.Finds target cfg (probes run) s.ttl addr ∧
      net.Finds target cfg (probes run') s.ttl addr'

lemma Network.Reports.answered_iff {net : Network io} {cfg : TracerouteConfig}
    {probes : Nat → ι} {hop : RouteHop} (h : net.Reports cfg probes hop) (addr : IpAddr) :
    hop.lost = false ∧ hop.addr = some addr ↔ net.HeardAt cfg probes addr :=
  and_comm.trans (h.reaches_iff addr)

/-- The hops that are not lost are what the trace finds. -/
lemma Network.Follows.finds_iff {net : Network io} {target : IpAddr} {cfg : TracerouteConfig}
    {probes : UInt8 → Nat → ι} {hops : List RouteHop} (h : net.Follows target cfg probes hops)
    (ttl : UInt8) (addr : IpAddr) :
    (∃ hop ∈ hops, hop.ttl = ttl ∧ hop.lost = false ∧ hop.addr = some addr) ↔
      net.Finds target cfg probes ttl addr := by
  constructor
  · rintro ⟨hop, hhop, rfl, hfound⟩
    exact ⟨(h.tried _).mp (List.mem_map_of_mem hhop),
      ((h.reports hop hhop).answered_iff addr).mp hfound⟩
  · rintro ⟨htries, hheard⟩
    obtain ⟨hop, hhop, rfl⟩ := List.mem_map.mp ((h.tried ttl).mpr htries)
    exact ⟨hop, hhop, rfl, ((h.reports hop hhop).answered_iff addr).mpr hheard⟩

/-- Where a probe is heard, one is the first. -/
lemma Network.exists_heardAt_iff {net : Network io} {cfg : TracerouteConfig}
    {probes : Nat → ι} :
    (∃ addr, net.HeardAt cfg probes addr) ↔ ∃ p, Probes cfg p ∧ net.Hears cfg (probes p) := by
  classical
  constructor
  · rintro ⟨addr, p, ⟨hp, hheard, -⟩, -⟩
    exact ⟨p, hp, hheard⟩
  · intro h
    obtain ⟨hp, hheard⟩ := Nat.find_spec h
    refine ⟨_, Nat.find h, ⟨hp, hheard, fun p hlt hears => ?_⟩, rfl⟩
    exact Nat.find_min h hlt ⟨Nat.lt_trans hlt hp, hears⟩

lemma Network.Reports.lost_eq_false_iff {net : Network io} {cfg : TracerouteConfig}
    {probes : Nat → ι} {hop : RouteHop} (h : net.Reports cfg probes hop) :
    hop.lost = false ↔ ∃ addr, net.HeardAt cfg probes addr := by
  rw [exists_heardAt_iff, ← Bool.not_eq_true, h.lost]
  simp only [not_forall, not_not, exists_prop]

lemma Network.Follows.any_iff {net : Network io} {target : IpAddr} {cfg : TracerouteConfig}
    {probes : UInt8 → Nat → ι} {hops : List RouteHop} (h : net.Follows target cfg probes hops)
    (ttl : UInt8) :
    hops.any (fun hop => !hop.lost && hop.ttl = ttl) = true ↔
      ∃ addr, net.Finds target cfg probes ttl addr := by
  simp only [List.any_eq_true, Bool.and_eq_true, Bool.not_eq_true', decide_eq_true_eq]
  constructor
  · rintro ⟨hop, hhop, hlost, rfl⟩
    obtain ⟨addr, hheard⟩ := (h.reports hop hhop).lost_eq_false_iff.mp hlost
    exact ⟨addr, (h.tried _).mp (List.mem_map_of_mem hhop), hheard⟩
  · rintro ⟨addr, hfinds⟩
    obtain ⟨hop, hhop, httl, hlost, -⟩ := (h.finds_iff ttl addr).mpr hfinds
    exact ⟨hop, hhop, hlost, httl⟩

section Paired

variable {α β : Type} {R : α → β → Prop} {l : List α} {l' : List β}

lemma countP_eq_of_forall₂ {p : α → Bool} {q : β → Bool} (h : List.Forall₂ R l l')
    (hR : ∀ a b, R a b → p a = q b) : l.countP p = l'.countP q := by
  induction h with
  | nil => rfl
  | cons hab _ ih => rw [List.countP_cons, List.countP_cons, ih, hR _ _ hab]

lemma exists_iff_of_forall₂ {p : α → Prop} {q : β → Prop} (h : List.Forall₂ R l l')
    (hR : ∀ a b, R a b → (p a ↔ q b)) : (∃ a ∈ l, p a) ↔ ∃ b ∈ l', q b := by
  induction h with
  | nil => simp
  | cons hab _ ih => simp only [List.exists_mem_cons_iff, ih, hR _ _ hab]

lemma exists_left_of_forall₂ (h : List.Forall₂ R l l') {b : β} (hb : b ∈ l') :
    ∃ a ∈ l, R a b := by
  induction h with
  | nil => cases hb
  | @cons a b' l l' hab _ ih =>
    rcases List.mem_cons.mp hb with rfl | hb
    · exact ⟨a, List.mem_cons_self, hab⟩
    · obtain ⟨a', ha', hR⟩ := ih hb
      exact ⟨a', List.mem_cons_of_mem a ha', hR⟩

end Paired

lemma ends_mapM_of_forall₂ {α β ε : Type} {f : α → ExceptT ε Option β} {l : List α} {bs : List β}
    (h : List.Forall₂ (fun a b => Ends (f a) (.ok b)) l bs) : Ends (l.mapM f) (.ok bs) := by
  induction h with
  | nil => exact Ends.pure []
  | cons hab _ ih =>
    rw [List.mapM_cons]
    exact ends_bind_ok_iff.mpr ⟨_, hab, ends_bind_ok_iff.mpr ⟨_, ih, Ends.pure _⟩⟩

lemma ends_tracerouteRepeat_iff {traceroute : Nat → Trace (List RouteHop)} {count : Nat}
    {r : RouteRepeat} :
    Ends (tracerouteRepeat traceroute count) (.ok r) ↔
      ∃ runs, List.Forall₂ (fun run hops => Ends (traceroute run) (.ok hops))
        (List.range (max count 1)) runs ∧ aggregateRuns runs = r := by
  rw [tracerouteRepeat, ends_bind_ok_iff]
  refine exists_congr (fun runs => ?_)
  rw [ends_pure_ok_iff]
  exact and_congr_left (fun _ => ⟨ends_mapM, ends_mapM_of_forall₂⟩)

lemma Network.Follows.nodup {net : Network io} {target : IpAddr} {cfg : TracerouteConfig}
    {probes : UInt8 → Nat → ι} {hops : List RouteHop} (h : net.Follows target cfg probes hops) :
    (hops.map RouteHop.ttl).Nodup := by
  refine List.Nodup.of_map UInt8.toNat ?_
  have hmap : (hops.map RouteHop.ttl).map UInt8.toNat =
      hops.map (fun hop => hop.ttl.toNat) := by
    rw [List.map_map]
    rfl
  rw [hmap, h.ttls]
  exact List.nodup_range'

/-- The aggregate of traces that report their routes reports them all. -/
lemma Network.followsAll {net : Network io} {target : IpAddr} {cfg : TracerouteConfig}
    {probes : Nat → UInt8 → Nat → ι} {count : Nat} {runs : List (List RouteHop)}
    (hfollows : List.Forall₂ (fun run hops => net.Follows target cfg (probes run) hops)
      (List.range count) runs) :
    net.FollowsAll target cfg probes count (aggregateRuns runs) := by
  classical
  have hunion : UnionOf runs (aggregateRuns runs) := by
    refine unionOf_aggregateRuns (fun hops hhops => ?_)
    obtain ⟨run, -, hf⟩ := exists_left_of_forall₂ hfollows hhops
    exact hf.nodup
  have hlength : runs.length = count := by
    rw [← hfollows.length_eq, List.length_range]
  -- a property of the traces as one of their places
  have hplaces : ∀ {p : Nat → Prop} {q : List RouteHop → Prop},
      (∀ run hops, net.Follows target cfg (probes run) hops → (p run ↔ q hops)) →
      ((∃ hops ∈ runs, q hops) ↔ ∃ run < count, p run) := by
    intro p q hpq
    rw [← exists_iff_of_forall₂ hfollows hpq]
    simp only [List.mem_range]
  have haddrs : ∀ s ∈ (aggregateRuns runs).hops, ∀ addr, addr ∈ s.addrs ↔
      ∃ run < count, net.Finds target cfg (probes run) s.ttl addr := by
    intro s hs addr
    rw [(hunion.hops s hs).addrs]
    exact hplaces (fun run hops hf => (hf.finds_iff s.ttl addr).symm)
  refine ⟨hunion.length.trans hlength, hunion.sorted, fun ttl => ?_, fun s hs => ?_, haddrs,
    fun s hs => ?_⟩
  · rw [hunion.ttls]
    refine hplaces (fun run hops hf => ?_)
    rw [← hf.tried, List.mem_map]
  · rw [(hunion.hops s hs).answered]
    refine congrArg (min 65535) (countP_eq_of_forall₂ hfollows (fun run hops hf => ?_)).symm
    rw [Bool.eq_iff_iff, hf.any_iff, decide_eq_true_eq]
  · rw [(hunion.hops s hs).pathChanged]
    constructor
    · rintro ⟨addr, haddr, addr', haddr', hne⟩
      obtain ⟨run, hrun, hfinds⟩ := (haddrs s hs addr).mp haddr
      obtain ⟨run', hrun', hfinds'⟩ := (haddrs s hs addr').mp haddr'
      exact ⟨run, hrun, run', hrun', addr, addr', hne, hfinds, hfinds'⟩
    · rintro ⟨run, hrun, run', hrun', addr, addr', hne, hfinds, hfinds'⟩
      exact ⟨addr, (haddrs s hs addr).mpr ⟨run, hrun, hfinds⟩, addr',
        (haddrs s hs addr').mpr ⟨run', hrun', hfinds'⟩, hne⟩

/-- Repeated traces report the routes of all their probes. A path changed where two of the traces
were answered from different addresses. -/
theorem repeat_follows_routes {target : IpAddr} {cfg : TracerouteConfig}
    {socket : Nat → Except String Unit} {io : Nat → UInt8 → Nat → ProbeIo} {count : Nat}
    {r : RouteRepeat} (net : Network (fun i : Nat × UInt8 × Nat => io i.1 i.2.1 i.2.2))
    (h : Ends (tracerouteRepeat
      (fun run => tracerouteLinux target cfg (socket run) (io run)) count) (.ok r)) :
    net.FollowsAll target cfg (fun run ttl p => (run, ttl, p)) (max count 1) r := by
  obtain ⟨runs, hruns, rfl⟩ := ends_tracerouteRepeat_iff.mp h
  exact net.followsAll (hruns.imp
    (fun run hops hends => net.follows (ends_tracerouteLinux_iff.mp hends).2.2))

/-- The hop of the first trace is answered from one address and that of the second one from another,
while the first answer comes again. -/
theorem repeat_follows_routes_twoRuns :
    (twoProbesNetwork ((0, 1, 0) : Nat × UInt8 × Nat) (1, 1, 0) (by decide)).FollowsAll
      (.v4 secondError.src) (oneProbe 1) (fun run ttl p => (run, ttl, p)) 2
      (aggregateRuns [[Reply.hop ⟨.v4 firstError.src, 5⟩ 1],
        [Reply.hop ⟨.v4 secondError.src, 5⟩ 1]]) := by
  have hle : 1 ≤ (oneProbe 1).maxHops.toNat := by decide
  refine @repeat_follows_routes _ _ (fun _ => .ok ())
    (fun run ttl p => twoProbes (0, 1, 0) (1, 1, 0) (run, ttl, p)) 2 _ _
    (ends_bind_ok_iff.mpr ⟨_, ends_mapM_of_forall₂ (.cons ?_ (.cons ?_ .nil)), Ends.pure _⟩)
  · refine ends_tracerouteLinux_iff.mpr ⟨rfl, rfl, rfl, hle, ?_, by simp, fun h => ?_⟩
    case refine_2 => exact absurd h (by decide)
    intro hop hhop
    rw [List.mem_singleton.mp hhop]
    exact (answered_first (0, 1, 0) (1, 1, 0) 1).hopSeen 1
  · refine ends_tracerouteLinux_iff.mpr ⟨rfl, rfl, rfl, hle, ?_, by simp, fun h => ?_⟩
    case refine_2 => exact absurd h (by decide)
    intro hop hhop
    rw [List.mem_singleton.mp hhop]
    exact (answered_second (0, 1, 0) (1, 1, 0) (by decide) 1).hopSeen 1

end IpTools

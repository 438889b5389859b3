import IpTools.Library.EventLoop
import IpTools.Model.Route
import IpTools.Probes.Connect
import IpTools.Route.Icmp

/-!
# Traceroute

UDP probes of increasing TTL, and the ICMP errors that answer them. Every probe waits on one raw
socket that receives all ICMP of the machine. What the socket receives and when is a parameter.
-/

namespace IpTools

/-- A packet as the receive buffer of 512 bytes holds it. -/
structure Packet where
  src : Ipv4Addr
  bytes : List UInt8
  length_pos : 0 < bytes.length
  length_le : bytes.length ≤ 512
deriving DecidableEq, Repr

/-- What the parser makes of a packet. The rest of the buffer is not read. -/
def Packet.quoted (packet : Packet) : Option (UInt8 × UInt16) :=
  ((parseIcmpUdpSrc packet.bytes.length).run packet.bytes).join

inductive RecvErrorKind where
  | wouldBlock
  | timedOut
  | other
deriving DecidableEq, Repr

/-- What `recvfrom` comes to: a count above zero, or an error. -/
inductive Received where
  | packet (packet : Packet)
  | error (kind : RecvErrorKind)
deriving DecidableEq, Repr

/-- One `recvfrom`, and the readings of the clock that may follow it, in nanoseconds. -/
structure Receive where
  started : Nat
  completed : Nat
  received : Received
  /-- In `recv_icmp`, after an error. -/
  checked : Nat
  /-- In the loop of the probe, after `recv_icmp` returned. -/
  returned : Nat
  started_le : started ≤ completed
  completed_le : completed ≤ checked
  checked_le : checked ≤ returned
deriving DecidableEq, Repr

/-- What `recv_icmp` returns: nothing on a timeout. -/
abbrev RecvResult := Except RecvErrorKind (Option (IpAddr × UInt16))

/-- What one receive makes `recv_icmp` return, if it does not start another one. -/
def recvStep (deadline : Nat) (r : Receive) : Option RecvResult :=
  match r.received with
  | .packet packet => packet.quoted.map (fun quoted => .ok (some (.v4 packet.src, quoted.2)))
  | .error .wouldBlock | .error .timedOut =>
    if deadline ≤ r.checked then some (.ok none) else none
  | .error .other =>
    if deadline ≤ r.checked then some (.ok none) else some (.error .other)

/-- A result comes with the next reading of the clock. -/
def recvRead (deadline : Nat) (r : Receive) : Option (RecvResult × Nat) :=
  (recvStep deadline r).map (fun result => (result, r.returned))

def recvIcmp (deadline : Nat) (receives : List Receive) :
    EventLoop.Run Receive (RecvResult × Nat) := EventLoop.run (recvRead deadline) receives

structure Reply where
  src : IpAddr
  rttMs : UInt64
deriving DecidableEq, Repr

/-- Read replies until one matches the probe, or time out. -/
def probeLoop (localPort : UInt16) (start deadline now : Nat) (receives : List Receive) :
    EventLoop.Run Receive (Option Reply) :=
  if now < deadline then
    let run := recvIcmp deadline receives
    match _hrun : run.outcome with
    | none => ⟨run.taken, none, run.rest⟩
    | some (.ok none, _) => ⟨run.taken, some none, run.rest⟩
    | some (.ok (some (src, port)), now) =>
      if port = localPort then
        ⟨run.taken, some (some ⟨src, (Duration.mk (now - start)).millis⟩), run.rest⟩
      else (probeLoop localPort start deadline now run.rest).prepend run.taken
    | some (.error _, now) => (probeLoop localPort start deadline now run.rest).prepend run.taken
  else ⟨[], some none, receives⟩
termination_by receives.length
decreasing_by all_goals exact EventLoop.length_rest_lt (Option.isSome_of_eq_some _hrun)

structure TracerouteConfig where
  maxHops : UInt8
  timeout : Duration
  probesPerHop : UInt8
deriving DecidableEq, Repr

def TracerouteConfig.default : TracerouteConfig := ⟨30, ⟨1000000000⟩, 3⟩

/-- What the operating system does for one probe. -/
structure ProbeIo where
  bind : Except String Unit
  localAddr : Except String UInt16
  setTtl : Except String Unit
  sendTo : Except String Unit
  start : Nat
  /-- The first reading of the clock by the loop of the probe. -/
  opened : Nat
  receives : List Receive

/-- A trace, `none` where a probe waits for a receive that does not complete. -/
abbrev Trace (α : Type) := ExceptT String Option α

/-- Send a probe from a fresh socket. Its port tells the replies to it apart. -/
def sendProbe (target : IpAddr) (io : ProbeIo) (ttl : UInt8) (probe : Nat) :
    Except String UInt16 := do
  io.bind.mapError (fun e => s!"failed to bind UDP probe socket: {e}")
  let localPort ← io.localAddr.mapError (fun e => s!"failed to read UDP probe socket port: {e}")
  io.setTtl.mapError (fun e => s!"failed to set TTL {ttl}: {e}")
  let probeDest := SocketAddr.new target (UInt16.ofNat (33434 + probe))
  io.sendTo.mapError (fun e => s!"failed to send traceroute probe to {probeDest}: {e}")
  return localPort

/-- The probes of one hop, until one is answered. -/
def probeHop (target : IpAddr) (cfg : TracerouteConfig) (io : Nat → ProbeIo) (ttl : UInt8) :
    List Nat → Trace RouteHop
  | [] => pure ⟨ttl, none, none, none, true⟩
  | probe :: probes => do
    let localPort ← liftM (sendProbe target (io probe) ttl probe)
    let start := (io probe).start
    match (probeLoop localPort start (start + cfg.timeout.nanos) (io probe).opened
      (io probe).receives).outcome with
    | none => ExceptT.mk none
    | some (some reply) => pure ⟨ttl, some reply.src, none, some reply.rttMs, false⟩
    | some none => probeHop target cfg io ttl probes

/-- The hops from the given TTLs on, until the target itself answers. -/
def traceHops (target : IpAddr) (cfg : TracerouteConfig) (io : UInt8 → Nat → ProbeIo) :
    List UInt8 → Trace (List RouteHop)
  | [] => pure []
  | ttl :: ttls => do
    let hop ← probeHop target cfg (io ttl) ttl (List.range cfg.probesPerHop.toNat)
    if hop.addr = some target ∧ hop.lost = false then return [hop]
    else return hop :: (← traceHops target cfg io ttls)

def tracerouteLinux (target : IpAddr) (cfg : TracerouteConfig) (socket : Except String Unit)
    (io : UInt8 → Nat → ProbeIo) : Trace (List RouteHop) :=
  match target with
  | .v6 _ => throw "route diagnostics are currently IPv4-only on Linux"
  | .v4 _ => do
    liftM (socket.mapError (fun e =>
      s!"failed to open raw ICMP socket (requires root/CAP_NET_RAW): {e}"))
    traceHops target cfg io ((List.range' 1 cfg.maxHops.toNat).map UInt8.ofNat)

end IpTools

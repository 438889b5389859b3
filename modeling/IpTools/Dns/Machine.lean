import IpTools.Dns.Message
import IpTools.Library.BoundedLoop

/-!
# The message parser on a machine

The parser with what a machine adds to it: offsets are of the width of `usize`, where a sum that
overflows is a panic, and each loop is given a budget of rounds.
-/

namespace IpTools

open BoundedLoop

/-- A slice of bytes in the memory of a machine. The language keeps it within `isize::MAX`. -/
structure Slice where
  bytes : List UInt8
  usizeBits : Nat
  usizeBits_ge : 32 ≤ usizeBits
  length_lt : bytes.length < 2 ^ (usizeBits - 1)

/-- A computation on a machine, `none` where the budget of a loop ends before the loop does. -/
abbrev Run (α : Type) := ExceptT Failure Option α

def stop {α : Type} (text : String) : Run α := liftM (fail text : Parsed α)

/-- `a + b` on offsets. -/
def Slice.add (m : Slice) (a b : Nat) : Parsed Nat :=
  if a + b < 2 ^ m.usizeBits then .ok (a + b) else .error .panic

/-- `&bytes[start..end]` as a slice of its own. -/
def Slice.sub (m : Slice) (start ending : Nat) : Parsed Slice :=
  if start ≤ ending ∧ ending ≤ m.bytes.length then
    .ok { m with
      bytes := (m.bytes.drop start).take (ending - start)
      length_lt := Nat.lt_of_le_of_lt (by rw [List.length_take, List.length_drop]; omega)
        m.length_lt }
  else .error .panic

/-- `u16::from_be_bytes([bytes[pos + i], bytes[pos + i + 1]])`, where a sum with 0 is not taken. -/
def Slice.u16At (m : Slice) (pos i : Nat) : Parsed Nat := do
  let b0 ← byteAt m.bytes (← m.add pos i)
  let b1 ← byteAt m.bytes (← m.add pos (i + 1))
  return b0.toNat * 2 ^ 8 + b1.toNat

/-- `u32::from_be_bytes` of the four bytes from `pos + i`. -/
def Slice.u32At (m : Slice) (pos i : Nat) : Parsed Nat := do
  let high ← m.u16At pos i
  let low ← m.u16At pos (i + 2)
  return high * 2 ^ 16 + low

/-- The rounds that the loop of a name may take. -/
def Slice.rounds (m : Slice) : Nat := max 1 (8 * m.bytes.length)

structure ReadNameState where
  pos : Nat
  hops : Nat
  labels : List String
  ending : Option Nat

/-- `end`, or else what the first pointer or the terminator sets it to. -/
def setEnd (ending : Option Nat) (value : Parsed Nat) : Parsed Nat :=
  match ending with
  | some ending => .ok ending
  | none => value

def Slice.readNameRound (m : Slice) (s : ReadNameState) :
    Run (Round ReadNameState (List String × Nat)) :=
  if s.hops > 8 then stop "too many compression-pointer hops"
  else
    match m.bytes[s.pos]? with
    | none => stop s!"name overruns message at {s.pos}"
    | some b =>
      if b = 0 then do
        let ending ← setEnd s.ending (m.add s.pos 1)
        return .done (s.labels, ending)
      else if isPointer b then do
        let next ← m.add s.pos 1
        match m.bytes[next]? with
        | none => stop "truncated pointer"
        | some low =>
          if pointerTarget b low ≥ m.bytes.length then stop "compression pointer out of range"
          else do
            let ending ← setEnd s.ending (m.add s.pos 2)
            return .next ⟨pointerTarget b low, s.hops + 1, s.labels, some ending⟩
      else if b.toNat > 63 then stop "bad label length"
      else do
        let start ← m.add s.pos 1
        let labelEnd ← m.add start b.toNat
        if labelEnd > m.bytes.length then stop "name overruns message"
        else do
          let label ← slice m.bytes start labelEnd
          return .next ⟨labelEnd, s.hops, s.labels ++ [fromUtf8Lossy label], s.ending⟩

def Slice.readName (m : Slice) (budget start : Nat) : Run (String × Nat) := do
  let (labels, ending) ← run m.readNameRound budget ⟨start, 0, [], none⟩
  return (dotted labels, ending)

structure ValidateNameState where
  pos : Nat
  depth : Nat

/-- A round of `validate_name`, whose call of itself is the next round. -/
def Slice.validateNameRound (m : Slice) (s : ValidateNameState) :
    Run (Round ValidateNameState Unit) :=
  if s.depth > 8 then stop "too many compression-pointer hops"
  else
    match m.bytes[s.pos]? with
    | none => stop s!"name overruns message at {s.pos}"
    | some b =>
      if b = 0 then return .done ()
      else if isPointer b then do
        let next ← m.add s.pos 1
        match m.bytes[next]? with
        | none => stop "truncated pointer"
        | some low =>
          if pointerTarget b low ≥ m.bytes.length then stop "compression pointer out of range"
          else return .next ⟨pointerTarget b low, s.depth + 1⟩
      else if b.toNat > 63 then stop "bad label length"
      else do
        let step ← m.add 1 b.toNat
        let pos ← m.add s.pos step
        if pos > m.bytes.length then stop "name overruns message"
        else return .next ⟨pos, s.depth⟩

def Slice.validateName (m : Slice) (budget start depth : Nat) : Run Unit :=
  run m.validateNameRound budget ⟨start, depth⟩

def Slice.skipNameRound (m : Slice) (budget pos : Nat) : Run (Round Nat Nat) :=
  match m.bytes[pos]? with
  | none => stop s!"name overruns message at {pos}"
  | some b =>
    if b = 0 then do
      let ending ← m.add pos 1
      return .done ending
    else if isPointer b then do
      let next ← m.add pos 1
      match m.bytes[next]? with
      | none => stop "truncated pointer"
      | some low =>
        if pointerTarget b low ≥ m.bytes.length then stop "compression pointer out of range"
        else do
          m.validateName budget (pointerTarget b low) 0
          let ending ← m.add pos 2
          return .done ending
    else if b.toNat > 63 then stop "bad label length"
    else do
      let step ← m.add 1 b.toNat
      let pos ← m.add pos step
      if pos > m.bytes.length then stop "name overruns message"
      else return .next pos

def Slice.skipName (m : Slice) (budget start : Nat) : Run Nat :=
  run (m.skipNameRound budget) budget start

structure ReadTxtState where
  off : Nat
  out : String

def Slice.readTxtRound (rdata : Slice) (s : ReadTxtState) : Run (Round ReadTxtState String) :=
  if s.off < rdata.bytes.length then do
    let len ← byteAt rdata.bytes s.off
    let off ← rdata.add s.off 1
    let next ← rdata.add off len.toNat
    if next > rdata.bytes.length then stop "truncated txt rdata"
    else do
      let text ← slice rdata.bytes off next
      return .next ⟨next, s.out ++ fromUtf8Lossy text⟩
  else return .done s.out

def Slice.readTxt (rdata : Slice) (budget : Nat) : Run String :=
  run rdata.readTxtRound budget ⟨0, ""⟩

/-- `field(i)` of a SOA record: a slice of four bytes, converted to an array of four. -/
def Slice.soaField (m : Slice) (p2 i : Nat) : Parsed Nat := do
  let start ← m.add p2 (i * 4)
  let ending ← m.add start 4
  match ← slice m.bytes start ending with
  | [b0, b1, b2, b3] =>
    return (b0.toNat * 2 ^ 8 + b1.toNat) * 2 ^ 16 + (b2.toNat * 2 ^ 8 + b3.toNat)
  | _ => .error .panic

def Slice.readSoa (m : Slice) (budget rdataStart : Nat) : Run DnsRecord := do
  let (mname, p1) ← m.readName budget rdataStart
  let (rname, p2) ← m.readName budget p1
  let ending ← m.add p2 20
  if ending > m.bytes.length then stop "truncated soa rdata"
  else do
    let serial ← m.soaField p2 0
    let refresh ← m.soaField p2 1
    let retry ← m.soaField p2 2
    let expire ← m.soaField p2 3
    let minimum ← m.soaField p2 4
    return .soa (soaText mname rname serial refresh retry expire minimum)

def Slice.readCaa (rdata : Slice) : Parsed DnsRecord := do
  let flags ← byteAt rdata.bytes 0
  let tagLen ← byteAt rdata.bytes 1
  let tagEnd ← rdata.add 2 tagLen.toNat
  if tagEnd > rdata.bytes.length then fail "truncated caa rdata"
  else do
    let tag ← slice rdata.bytes 2 tagEnd
    let value ← slice rdata.bytes tagEnd rdata.bytes.length
    return .caa flags (fromUtf8Lossy tag) (fromUtf8Lossy value)

def Slice.readAddress (rdata : Slice) : Parsed DnsRecord := do
  let b0 ← byteAt rdata.bytes 0
  let b1 ← byteAt rdata.bytes 1
  let b2 ← byteAt rdata.bytes 2
  let b3 ← byteAt rdata.bytes 3
  return .a (Ipv4Addr.new b0 b1 b2 b3)

/-- `<[u8; 16]>::try_from(rdata).expect(..)`. -/
def Slice.readIpv6Address (rdata : Slice) : Parsed DnsRecord :=
  if h : rdata.bytes.toArray.size = 16 then .ok (.aaaa ⟨rdata.bytes.toArray, h⟩)
  else .error .panic

def Slice.readRecord (m : Slice) (budget : Nat) (want : DnsRecordType) (rtype rdataStart : Nat)
    (rdata : Slice) : Run (Option DnsRecord) :=
  let rdlen := rdata.bytes.length
  if rtype = 1 ∧ want = .a ∧ rdlen = 4 then do return some (← rdata.readAddress)
  else if rtype = 28 ∧ want = .aaaa ∧ rdlen = 16 then do return some (← rdata.readIpv6Address)
  else if rtype = 5 ∧ want = .cname then do
    return some (.cname (← m.readName budget rdataStart).1)
  else if rtype = 2 ∧ want = .ns then do
    return some (.ns (← m.readName budget rdataStart).1)
  else if rtype = 12 ∧ want = .ptr then do
    return some (.ptr (← m.readName budget rdataStart).1)
  else if rtype = 15 ∧ want = .mx ∧ rdlen ≥ 3 then do
    let preference ← IpTools.u16At rdata.bytes 0
    let start ← m.add rdataStart 2
    let (exchange, _) ← m.readName budget start
    return some (.mx (UInt16.ofNat preference) exchange)
  else if rtype = 16 ∧ want = .txt then do
    return some (.txt (← rdata.readTxt budget))
  else if rtype = 6 ∧ want = .soa then do
    return some (← m.readSoa budget rdataStart)
  else if rtype = 257 ∧ want = .caa ∧ rdlen ≥ 2 then do
    return some (← rdata.readCaa)
  else if rtype = 33 ∧ want = .srv ∧ rdlen ≥ 6 then do
    let priority ← IpTools.u16At rdata.bytes 0
    let weight ← IpTools.u16At rdata.bytes 2
    let port ← IpTools.u16At rdata.bytes 4
    let start ← m.add rdataStart 6
    let (target, _) ← m.readName budget start
    return some (.srv (UInt16.ofNat priority) (UInt16.ofNat weight) (UInt16.ofNat port) target)
  else return none

def Slice.skipQuestions (m : Slice) (budget : Nat) : Nat → Nat → Run Nat
  | 0, pos => return pos
  | n + 1, pos => do
    let pos ← m.skipName budget pos
    let pos ← m.add pos 4
    m.skipQuestions budget n pos

def Slice.answerTtl (m : Slice) (want : DnsRecordType) (rtype pos : Nat) (ttl : Option UInt32) :
    Parsed (Option UInt32) :=
  if isWanted want rtype && ttl.isNone then
    (m.u32At pos 4).map (fun n => some (UInt32.ofNat n))
  else .ok ttl

def Slice.parseAnswer (m : Slice) (budget : Nat) (want : DnsRecordType) (state : Answers) :
    Run Answers := do
  let pos ← m.skipName budget state.pos
  let header ← m.add pos 10
  if header > m.bytes.length then stop "truncated answer header"
  else do
    let rtype ← m.u16At pos 0
    let sawCname := state.sawCname || rtype = 5
    let ttl ← m.answerTtl want rtype pos state.ttl
    let rdlen ← m.u16At pos 8
    let rdataStart ← m.add pos 10
    let ending ← m.add rdataStart rdlen
    if ending > m.bytes.length then stop "truncated rdata"
    else do
      let rdata ← m.sub rdataStart ending
      let record ← m.readRecord budget want rtype rdataStart rdata
      return ⟨ending, ttl, state.records ++ record.toList, sawCname⟩

def Slice.parseAnswers (m : Slice) (budget : Nat) (want : DnsRecordType) :
    Nat → Answers → Run Answers
  | 0, state => return state
  | n + 1, state => do
    let state ← m.parseAnswer budget want state
    m.parseAnswers budget want n state

def Slice.parseDnsResponse (m : Slice) (budget : Nat) (want : DnsRecordType) :
    Run ParsedDnsResponse :=
  if m.bytes.length < 12 then
    stop "message shorter than the 12-byte header"
  else do
    let rcode := (← byteAt m.bytes 3) &&& 0x0f
    let qdcount ← IpTools.u16At m.bytes 4
    let ancount ← IpTools.u16At m.bytes 6
    let pos ← m.skipQuestions budget qdcount 12
    let answers ← m.parseAnswers budget want ancount ⟨pos, none, [], false⟩
    return ⟨rcode, answers.ttl, answers.records, answers.sawCname⟩

end IpTools

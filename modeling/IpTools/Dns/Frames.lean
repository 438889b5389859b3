import IpTools.Dns.Message

/-!
# The answers of a message

What a message says of where its answers stand, before any of them is decoded: the fixed fields of
each answer and the extent of its data. A response is what the data of these answers decode to,
and not all of it is read from that extent.
-/

namespace IpTools

/-- The fixed fields of an answer, and where they stand. -/
structure AnswerFrame where
  fields : Nat
  rtype : Nat
  ttl : UInt32
  rdlen : Nat
deriving DecidableEq, Repr

def AnswerFrame.rdataStart (f : AnswerFrame) : Nat := f.fields + 10

def AnswerFrame.rdataEnd (f : AnswerFrame) : Nat := f.rdataStart + f.rdlen

def AnswerFrame.rdata (bytes : List UInt8) (f : AnswerFrame) : List UInt8 :=
  (bytes.drop f.rdataStart).take f.rdlen

def frameAt (bytes : List UInt8) (pos : Nat) : Parsed AnswerFrame := do
  let fields ← skipName bytes pos
  if fields + 10 > bytes.length then fail "truncated answer header"
  else
    let rtype ← u16At bytes fields
    let ttl ← u32At bytes (fields + 4)
    let rdlen ← u16At bytes (fields + 8)
    if fields + 10 + rdlen > bytes.length then fail "truncated rdata"
    else return ⟨fields, rtype, UInt32.ofNat ttl, rdlen⟩

/-- The frames of some answers, the first of which starts at a position. -/
def frames (bytes : List UInt8) : Nat → Nat → Parsed (List AnswerFrame)
  | 0, _ => .ok []
  | n + 1, pos => do
    let f ← frameAt bytes pos
    let rest ← frames bytes n f.rdataEnd
    return f :: rest

def messageFrames (bytes : List UInt8) : Parsed (List AnswerFrame) := do
  let qdcount ← u16At bytes 4
  let ancount ← u16At bytes 6
  let pos ← skipQuestions bytes qdcount 12
  frames bytes ancount pos

/-- What the data of an answer decode to. -/
def AnswerFrame.decode (bytes : List UInt8) (want : DnsRecordType) (f : AnswerFrame) :
    Parsed (Option DnsRecord) :=
  readRecord bytes want f.rtype f.rdataStart (f.rdata bytes)

/-- An answer with the record it decodes to. -/
structure DecodedAnswer where
  frame : AnswerFrame
  record : Option DnsRecord
deriving DecidableEq, Repr

def AnswerFrame.decoded (bytes : List UInt8) (want : DnsRecordType) (f : AnswerFrame) :
    DecodedAnswer :=
  ⟨f, (f.decode bytes want).toOption.join⟩

/-- The frames of the answers of a message, none where it cannot be framed. -/
def answerFrames (bytes : List UInt8) : List AnswerFrame :=
  (messageFrames bytes).toOption.getD []

def decodedAnswers (bytes : List UInt8) (want : DnsRecordType) : List DecodedAnswer :=
  (answerFrames bytes).map (AnswerFrame.decoded bytes want)

def wantedFrames (want : DnsRecordType) (fs : List AnswerFrame) : List AnswerFrame :=
  fs.filter (fun f => isWanted want f.rtype)

/-- The data lengths that the decoder does not pass over for a type that is wanted. -/
def lengthFits (want : DnsRecordType) (rdlen : Nat) : Bool :=
  match want with
  | .a => rdlen = 4
  | .aaaa => rdlen = 16
  | .mx => rdlen ≥ 3
  | .caa => rdlen ≥ 2
  | .srv => rdlen ≥ 6
  | _ => true

/-- What the data of a record of a type say, where their length fits the type. -/
def decodeWanted (bytes : List UInt8) (rdataStart : Nat) (rdata : List UInt8) :
    DnsRecordType → Parsed DnsRecord
  | .a => do
    let b0 ← byteAt rdata 0
    let b1 ← byteAt rdata 1
    let b2 ← byteAt rdata 2
    let b3 ← byteAt rdata 3
    return .a (Ipv4Addr.new b0 b1 b2 b3)
  | .aaaa =>
    if h : rdata.toArray.size = 16 then .ok (.aaaa ⟨rdata.toArray, h⟩) else .error .panic
  | .cname => do return .cname (← readName bytes rdataStart).1
  | .ns => do return .ns (← readName bytes rdataStart).1
  | .ptr => do return .ptr (← readName bytes rdataStart).1
  | .mx => do
    let preference ← u16At rdata 0
    let (exchange, _) ← readName bytes (rdataStart + 2)
    return .mx (UInt16.ofNat preference) exchange
  | .txt => do return .txt (← readTxt rdata)
  | .soa => readSoa bytes rdataStart
  | .caa => readCaa rdata
  | .srv => do
    let priority ← u16At rdata 0
    let weight ← u16At rdata 2
    let port ← u16At rdata 4
    let (target, _) ← readName bytes (rdataStart + 6)
    return .srv (UInt16.ofNat priority) (UInt16.ofNat weight) (UInt16.ofNat port) target

/-- The bytes from a position up to another one. -/
structure Extent where
  start : Nat
  ending : Nat
deriving DecidableEq, Repr

def Extent.Inside (s : Extent) (start ending : Nat) : Prop := start ≤ s.start ∧ s.ending ≤ ending

def readNameExtent (bytes : List UInt8) (start : Nat) : Parsed (String × Extent) := do
  let (name, ending) ← readName bytes start
  return (name, ⟨start, ending⟩)

/-- A record of the types that embed names, and the bytes in place that it is decoded from. The
data of the other types are decoded from the slice of the answer. -/
def decodeExtents (bytes : List UInt8) (rdataStart : Nat) (rdata : List UInt8) :
    DnsRecordType → Parsed (DnsRecord × List Extent)
  | .cname => do
    let (name, s) ← readNameExtent bytes rdataStart
    return (.cname name, [s])
  | .ns => do
    let (name, s) ← readNameExtent bytes rdataStart
    return (.ns name, [s])
  | .ptr => do
    let (name, s) ← readNameExtent bytes rdataStart
    return (.ptr name, [s])
  | .mx => do
    let preference ← u16At rdata 0
    let (exchange, s) ← readNameExtent bytes (rdataStart + 2)
    return (.mx (UInt16.ofNat preference) exchange, [⟨rdataStart, rdataStart + 2⟩, s])
  | .soa => do
    let (mname, s1) ← readNameExtent bytes rdataStart
    let (rname, s2) ← readNameExtent bytes s1.ending
    let p2 := s2.ending
    if p2 + 20 > bytes.length then fail "truncated soa rdata"
    else
      let serial ← u32At bytes p2
      let refresh ← u32At bytes (p2 + 4)
      let retry ← u32At bytes (p2 + 8)
      let expire ← u32At bytes (p2 + 12)
      let minimum ← u32At bytes (p2 + 16)
      return (.soa (soaText mname rname serial refresh retry expire minimum),
        [s1, s2, ⟨p2, p2 + 20⟩])
  | .srv => do
    let priority ← u16At rdata 0
    let weight ← u16At rdata 2
    let port ← u16At rdata 4
    let (target, s) ← readNameExtent bytes (rdataStart + 6)
    return (.srv (UInt16.ofNat priority) (UInt16.ofNat weight) (UInt16.ofNat port) target,
      [⟨rdataStart, rdataStart + 6⟩, s])
  | want => do
    let record ← decodeWanted bytes rdataStart rdata want
    return (record, [⟨rdataStart, rdataStart + rdata.length⟩])

/-- What is left of some bytes after the name they start with, up to its terminator or its first
pointer. -/
def afterName : List UInt8 → Option (List UInt8)
  | [] => none
  | b :: rest =>
    if b = 0 then some rest
    else if isPointer b then rest.tail?
    else if rest.length < b.toNat then none
    else afterName (rest.drop b.toNat)
termination_by data => data.length
decreasing_by
  rw [List.length_drop, List.length_cons]
  omega

/-- The data of an answer hold the fixed fields and the names of its type. -/
def holdsRecord (rdata : List UInt8) : DnsRecordType → Bool
  | .cname | .ns | .ptr => (afterName rdata).isSome
  | .mx => (afterName (rdata.drop 2)).isSome
  | .soa => ((afterName rdata).bind afterName).any (fun rest => 20 ≤ rest.length)
  | .srv => (afterName (rdata.drop 6)).isSome
  | _ => true

end IpTools

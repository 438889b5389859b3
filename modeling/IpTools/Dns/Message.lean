import IpTools.Library.Utf8
import IpTools.Model.Observation
import IpTools.Model.Text

/-!
# DNS messages

The query builder and the response parser of the encrypted resolvers. Positions are offsets into
the message, and an access that the source does not check is a panic here where it is out of range.
-/

namespace IpTools

variable [DebugTables]

/-- How a parser of the wire format ends without a value. -/
inductive Failure where
  | message (text : String)
  | panic
deriving DecidableEq, Repr

abbrev Parsed (α : Type) := Except Failure α

def fail {α : Type} (text : String) : Parsed α := .error (.message text)

/-- `bytes[i]`. -/
def byteAt (bytes : List UInt8) (i : Nat) : Parsed UInt8 :=
  match bytes[i]? with
  | some b => .ok b
  | none => .error .panic

/-- `&bytes[start..end]`. -/
def slice (bytes : List UInt8) (start ending : Nat) : Parsed (List UInt8) :=
  if start ≤ ending ∧ ending ≤ bytes.length then .ok ((bytes.drop start).take (ending - start))
  else .error .panic

/-- `u16::from_be_bytes` of two bytes from a position. -/
def u16At (bytes : List UInt8) (i : Nat) : Parsed Nat := do
  let b0 ← byteAt bytes i
  let b1 ← byteAt bytes (i + 1)
  return b0.toNat * 2 ^ 8 + b1.toNat

/-- `u32::from_be_bytes` of four bytes from a position. -/
def u32At (bytes : List UInt8) (i : Nat) : Parsed Nat := do
  let high ← u16At bytes i
  let low ← u16At bytes (i + 2)
  return high * 2 ^ 16 + low

/-- `String::from_utf8_lossy`. -/
def fromUtf8Lossy (bytes : List UInt8) : String := String.ofList (Utf8.decodeLossy bytes)

def isPointer (b : UInt8) : Bool := b &&& 0xc0 = 0xc0

def pointerTarget (b low : UInt8) : Nat := (b &&& 0x3f).toNat * 2 ^ 8 + low.toNat

/-- The loop of `read_name`: the labels from a position and the end of the name in the stream,
which the first pointer sets. -/
def readNameLoop (bytes : List UInt8) (pos hops : Nat) (labels : List String)
    (ending : Option Nat) : Parsed (List String × Nat) :=
  if hops > 8 then fail "too many compression-pointer hops"
  else
    match bytes[pos]? with
    | none => fail s!"name overruns message at {pos}"
    | some b =>
      if b = 0 then .ok (labels, ending.getD (pos + 1))
      else if isPointer b then
        match bytes[pos + 1]? with
        | none => fail "truncated pointer"
        | some low =>
          if pointerTarget b low ≥ bytes.length then fail "compression pointer out of range"
          else
            readNameLoop bytes (pointerTarget b low) (hops + 1) labels
              (some (ending.getD (pos + 2)))
      else if b.toNat > 63 then fail "bad label length"
      else if pos + 1 + b.toNat > bytes.length then fail "name overruns message"
      else
        match slice bytes (pos + 1) (pos + 1 + b.toNat) with
        | .error e => .error e
        | .ok label =>
          readNameLoop bytes (pos + 1 + b.toNat) hops (labels ++ [fromUtf8Lossy label]) ending
termination_by (9 - hops, bytes.length - pos)

def dotted (labels : List String) : String :=
  if labels.isEmpty then "." else ".".intercalate labels

/-- The name at a position and the position just past it in the stream. -/
def readName (bytes : List UInt8) (start : Nat) : Parsed (String × Nat) := do
  let (labels, ending) ← readNameLoop bytes start 0 [] none
  return (dotted labels, ending)

def validateName (bytes : List UInt8) (pos depth : Nat) : Parsed Unit :=
  if depth > 8 then fail "too many compression-pointer hops"
  else
    match bytes[pos]? with
    | none => fail s!"name overruns message at {pos}"
    | some b =>
      if b = 0 then .ok ()
      else if isPointer b then
        match bytes[pos + 1]? with
        | none => fail "truncated pointer"
        | some low =>
          if pointerTarget b low ≥ bytes.length then fail "compression pointer out of range"
          else validateName bytes (pointerTarget b low) (depth + 1)
      else if b.toNat > 63 then fail "bad label length"
      else if pos + 1 + b.toNat > bytes.length then fail "name overruns message"
      else validateName bytes (pos + 1 + b.toNat) depth
termination_by (9 - depth, bytes.length - pos)

/-- The position just past the name at a position. -/
def skipName (bytes : List UInt8) (pos : Nat) : Parsed Nat :=
  match bytes[pos]? with
  | none => fail s!"name overruns message at {pos}"
  | some b =>
    if b = 0 then .ok (pos + 1)
    else if isPointer b then
      match bytes[pos + 1]? with
      | none => fail "truncated pointer"
      | some low =>
        if pointerTarget b low ≥ bytes.length then fail "compression pointer out of range"
        else
          match validateName bytes (pointerTarget b low) 0 with
          | .error e => .error e
          | .ok () => .ok (pos + 2)
    else if b.toNat > 63 then fail "bad label length"
    else if pos + 1 + b.toNat > bytes.length then fail "name overruns message"
    else skipName bytes (pos + 1 + b.toNat)
termination_by bytes.length - pos

def readTxtLoop (rdata : List UInt8) (off : Nat) (out : String) : Parsed String :=
  if off < rdata.length then
    match byteAt rdata off with
    | .error e => .error e
    | .ok len =>
      if off + 1 + len.toNat > rdata.length then fail "truncated txt rdata"
      else
        match slice rdata (off + 1) (off + 1 + len.toNat) with
        | .error e => .error e
        | .ok text => readTxtLoop rdata (off + 1 + len.toNat) (out ++ fromUtf8Lossy text)
  else .ok out
termination_by rdata.length - off

/-- Length-prefixed character strings, joined. -/
def readTxt (rdata : List UInt8) : Parsed String := readTxtLoop rdata 0 ""

def isWanted (want : DnsRecordType) (rtype : Nat) : Bool :=
  match want with
  | .a => rtype = 1
  | .aaaa => rtype = 28
  | .cname => rtype = 5
  | .ns => rtype = 2
  | .ptr => rtype = 12
  | .mx => rtype = 15
  | .txt => rtype = 16
  | .soa => rtype = 6
  | .caa => rtype = 257
  | .srv => rtype = 33

def soaText (mname rname : String) (serial refresh retry expire minimum : Nat) : String :=
  s!"{mname} {rname} serial {serial} refresh {refresh} retry {retry} expire {expire} " ++
    s!"minimum {minimum}"

def readSoa (bytes : List UInt8) (rdataStart : Nat) : Parsed DnsRecord := do
  let (mname, p1) ← readName bytes rdataStart
  let (rname, p2) ← readName bytes p1
  if p2 + 20 > bytes.length then fail "truncated soa rdata"
  else
    let serial ← u32At bytes p2
    let refresh ← u32At bytes (p2 + 4)
    let retry ← u32At bytes (p2 + 8)
    let expire ← u32At bytes (p2 + 12)
    let minimum ← u32At bytes (p2 + 16)
    return .soa (soaText mname rname serial refresh retry expire minimum)

def readCaa (rdata : List UInt8) : Parsed DnsRecord := do
  let flags ← byteAt rdata 0
  let tagLen ← byteAt rdata 1
  let tagEnd := 2 + tagLen.toNat
  if tagEnd > rdata.length then fail "truncated caa rdata"
  else
    let tag ← slice rdata 2 tagEnd
    let value ← slice rdata tagEnd rdata.length
    return .caa flags (fromUtf8Lossy tag) (fromUtf8Lossy value)

/-- The record of an answer, `none` where its type is another one or its length does not fit. -/
def readRecord (bytes : List UInt8) (want : DnsRecordType) (rtype rdataStart : Nat)
    (rdata : List UInt8) : Parsed (Option DnsRecord) :=
  let rdlen := rdata.length
  if rtype = 1 ∧ want = .a ∧ rdlen = 4 then do
    let b0 ← byteAt rdata 0
    let b1 ← byteAt rdata 1
    let b2 ← byteAt rdata 2
    let b3 ← byteAt rdata 3
    return some (.a (Ipv4Addr.new b0 b1 b2 b3))
  else if rtype = 28 ∧ want = .aaaa ∧ rdlen = 16 then
    if h : rdata.toArray.size = 16 then .ok (some (.aaaa ⟨rdata.toArray, h⟩))
    else .error .panic
  else if rtype = 5 ∧ want = .cname then do
    return some (.cname (← readName bytes rdataStart).1)
  else if rtype = 2 ∧ want = .ns then do
    return some (.ns (← readName bytes rdataStart).1)
  else if rtype = 12 ∧ want = .ptr then do
    return some (.ptr (← readName bytes rdataStart).1)
  else if rtype = 15 ∧ want = .mx ∧ rdlen ≥ 3 then do
    let preference ← u16At rdata 0
    let (exchange, _) ← readName bytes (rdataStart + 2)
    return some (.mx (UInt16.ofNat preference) exchange)
  else if rtype = 16 ∧ want = .txt then do
    return some (.txt (← readTxt rdata))
  else if rtype = 6 ∧ want = .soa then do
    return some (← readSoa bytes rdataStart)
  else if rtype = 257 ∧ want = .caa ∧ rdlen ≥ 2 then do
    return some (← readCaa rdata)
  else if rtype = 33 ∧ want = .srv ∧ rdlen ≥ 6 then do
    let priority ← u16At rdata 0
    let weight ← u16At rdata 2
    let port ← u16At rdata 4
    let (target, _) ← readName bytes (rdataStart + 6)
    return some (.srv (UInt16.ofNat priority) (UInt16.ofNat weight) (UInt16.ofNat port) target)
  else .ok none

structure ParsedDnsResponse where
  rcode : UInt8
  ttl : Option UInt32
  records : List DnsRecord
  sawCname : Bool
deriving DecidableEq, Repr

def skipQuestions (bytes : List UInt8) : Nat → Nat → Parsed Nat
  | 0, pos => .ok pos
  | n + 1, pos => do
    let pos ← skipName bytes pos
    skipQuestions bytes n (pos + 4)

/-- What the loop over the answers carries. -/
structure Answers where
  pos : Nat
  ttl : Option UInt32
  records : List DnsRecord
  sawCname : Bool
deriving DecidableEq, Repr

/-- The TTL after an answer: that of the first record of the wanted type. -/
def answerTtl (bytes : List UInt8) (want : DnsRecordType) (rtype pos : Nat)
    (ttl : Option UInt32) : Parsed (Option UInt32) :=
  if isWanted want rtype && ttl.isNone then
    (u32At bytes (pos + 4)).map (fun n => some (UInt32.ofNat n))
  else .ok ttl

def parseAnswer (bytes : List UInt8) (want : DnsRecordType) (state : Answers) :
    Parsed Answers := do
  let pos ← skipName bytes state.pos
  if pos + 10 > bytes.length then fail "truncated answer header"
  else
    let rtype ← u16At bytes pos
    let sawCname := state.sawCname || rtype = 5
    let ttl ← answerTtl bytes want rtype pos state.ttl
    let rdlen ← u16At bytes (pos + 8)
    let rdataStart := pos + 10
    let ending := rdataStart + rdlen
    if ending > bytes.length then fail "truncated rdata"
    else
      let rdata ← slice bytes rdataStart ending
      let record ← readRecord bytes want rtype rdataStart rdata
      return ⟨ending, ttl, state.records ++ record.toList, sawCname⟩

def parseAnswers (bytes : List UInt8) (want : DnsRecordType) : Nat → Answers → Parsed Answers
  | 0, state => .ok state
  | n + 1, state => do
    let state ← parseAnswer bytes want state
    parseAnswers bytes want n state

/-- The response code and the records of the wanted type in the answer section. -/
def parseDnsResponse (bytes : List UInt8) (want : DnsRecordType) : Parsed ParsedDnsResponse :=
  if bytes.length < 12 then fail "message shorter than the 12-byte header"
  else do
    let rcode := (← byteAt bytes 3) &&& 0x0f
    let qdcount ← u16At bytes 4
    let ancount ← u16At bytes 6
    let pos ← skipQuestions bytes qdcount 12
    let answers ← parseAnswers bytes want ancount ⟨pos, none, [], false⟩
    return ⟨rcode, answers.ttl, answers.records, answers.sawCname⟩

/-- The length-prefixed labels of a query name. -/
def queryLabels (host : List Char) : List (List Char) → Except String (List UInt8)
  | [] => .ok []
  | label :: rest => do
    let bytes := Utf8.encode label
    if bytes.isEmpty || bytes.length > 63 then
      let text := strDebug (String.ofList host)
      .error s!"hostname {text} has an invalid DNS label"
    else
      let rest ← queryLabels host rest
      return UInt8.ofNat bytes.length :: bytes ++ rest

def queryType : DnsRecordType → UInt16
  | .a => 1
  | .aaaa => 28
  | .cname => 5
  | .mx => 15
  | .txt => 16
  | .ns => 2
  | .soa => 6
  | .caa => 257
  | .srv => 33
  | .ptr => 12

def be16 (n : UInt16) : List UInt8 := [UInt8.ofNat (n.toNat / 2 ^ 8), UInt8.ofNat n.toNat]

/-- A single-question query with recursion requested and the id 0. -/
def buildQuery (host : List Char) (recordType : DnsRecordType) : Except String (List UInt8) := do
  let name := (stripSuffix '.' host).getD host
  let labels ← queryLabels host (name.splitOn '.')
  return be16 0 ++ be16 0x0100 ++ be16 1 ++ [0, 0, 0, 0, 0, 0] ++ labels ++ [0] ++
    be16 (queryType recordType) ++ be16 1

def base64Alphabet : List Char :=
  "ABCDEFGHIJKLMNOPQRSTUVWXYZabcdefghijklmnopqrstuvwxyz0123456789-_".toList

def base64Char (b : UInt8) : Char := base64Alphabet.getD b.toNat 'A'

/-- Base64url without padding, three bytes at a time. -/
def base64url : List UInt8 → List Char
  | [] => []
  | [b0] => [base64Char (b0 >>> 2), base64Char ((b0 &&& 0x03) <<< 4)]
  | [b0, b1] =>
    [base64Char (b0 >>> 2), base64Char (((b0 &&& 0x03) <<< 4) ||| (b1 >>> 4)),
      base64Char ((b1 &&& 0x0f) <<< 2)]
  | b0 :: b1 :: b2 :: rest =>
    base64Char (b0 >>> 2) :: base64Char (((b0 &&& 0x03) <<< 4) ||| (b1 >>> 4)) ::
      base64Char (((b1 &&& 0x0f) <<< 2) ||| (b2 >>> 6)) :: base64Char (b2 &&& 0x3f) ::
      base64url rest

end IpTools

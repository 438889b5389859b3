import IpTools.Dns.Message

/-!
# The reference encoder

Messages as what they say, with the bytes that say it. A name is written out or ends in a pointer
to where an earlier name, or the rest of one, starts; what it says is then what stands there.
-/

namespace IpTools

structure Label where
  text : List Char
  nonempty : 0 < (Utf8.encode text).length
  short : (Utf8.encode text).length ≤ 63

def Label.bytes (l : Label) : List UInt8 :=
  UInt8.ofNat (Utf8.encode l.text).length :: Utf8.encode l.text

/-- Where a name starts: its labels and the pointers it goes through. -/
structure NameStart where
  pos : Nat
  labels : List Label
  hops : Nat

/-- The labels that are written out, and the start pointed to unless the name ends in the root. -/
structure WireName where
  own : List Label
  pointer : Option NameStart

def pointerBytes (target : Nat) : List UInt8 :=
  [UInt8.ofNat (0xc0 + target / 2 ^ 8), UInt8.ofNat target]

def WireName.bytes (w : WireName) : List UInt8 :=
  w.own.flatMap Label.bytes ++ w.pointer.elim [0] (fun p => pointerBytes p.pos)

def WireName.labels (w : WireName) : List Label :=
  w.own ++ w.pointer.elim [] NameStart.labels

def WireName.hops (w : WireName) : Nat := w.pointer.elim 0 (fun p => p.hops + 1)

def nameText : List Label → String
  | [] => "."
  | labels => ".".intercalate (labels.map (fun l => String.ofList l.text))

def WireName.text (w : WireName) : String := nameText w.labels

/-- A pointer goes to an earlier start that is in its reach, and the chain is of at most 8. -/
def WireName.Fits (w : WireName) (starts : List NameStart) : Prop :=
  ∀ p, w.pointer = some p → p ∈ starts ∧ p.pos < 2 ^ 14 ∧ p.hops < 8

/-- The name at a position and the rests of it from each label on. -/
def nameStarts (pointer : Option NameStart) : List Label → Nat → List NameStart
  | [], pos => [⟨pos, (WireName.mk [] pointer).labels, (WireName.mk [] pointer).hops⟩]
  | l :: own, pos =>
    ⟨pos, (WireName.mk (l :: own) pointer).labels, (WireName.mk (l :: own) pointer).hops⟩ ::
      nameStarts pointer own (pos + l.bytes.length)

def WireName.starts (w : WireName) (pos : Nat) : List NameStart := nameStarts w.pointer w.own pos

/-- A part of a message: bytes as they are, or a name. -/
inductive Piece where
  | raw (bytes : List UInt8)
  | name (w : WireName)

def Piece.bytes : Piece → List UInt8
  | .raw bytes => bytes
  | .name w => w.bytes

def piecesBytes (pieces : List Piece) : List UInt8 := pieces.flatMap Piece.bytes

/-- Every name of some pieces points to a start before it. -/
def PiecesFit : List Piece → Nat → List NameStart → Prop
  | [], _, _ => True
  | .raw bytes :: rest, pos, starts => PiecesFit rest (pos + bytes.length) starts
  | .name w :: rest, pos, starts =>
    w.Fits starts ∧ PiecesFit rest (pos + w.bytes.length) (starts ++ w.starts pos)

def be32 (n : UInt32) : List UInt8 :=
  be16 (UInt16.ofNat (n.toNat / 2 ^ 16)) ++ be16 (UInt16.ofNat n.toNat)

structure Question where
  name : WireName
  qtype : UInt16
  qclass : UInt16

def Question.pieces (q : Question) : List Piece :=
  [.name q.name, .raw (be16 q.qtype ++ be16 q.qclass)]

def charString (bytes : List UInt8) : List UInt8 := UInt8.ofNat bytes.length :: bytes

/-- The data of a record of a supported type, or of any other. -/
inductive Rdata where
  | a (ip : Ipv4Addr)
  | aaaa (ip : Ipv6Addr)
  | cname (name : WireName)
  | ns (name : WireName)
  | ptr (name : WireName)
  | mx (preference : UInt16) (exchange : WireName)
  | txt (strings : List (List UInt8))
  | soa (mname rname : WireName) (serial refresh retry expire minimum : UInt32)
  | caa (flags : UInt8) (tag value : List UInt8)
  | srv (priority weight port : UInt16) (target : WireName)
  | other (rtype : UInt16) (bytes : List UInt8)

def Rdata.recordType : Rdata → Option DnsRecordType
  | .a .. => some .a
  | .aaaa .. => some .aaaa
  | .cname .. => some .cname
  | .ns .. => some .ns
  | .ptr .. => some .ptr
  | .mx .. => some .mx
  | .txt .. => some .txt
  | .soa .. => some .soa
  | .caa .. => some .caa
  | .srv .. => some .srv
  | .other .. => none

def Rdata.rtype : Rdata → UInt16
  | .a .. => 1
  | .ns .. => 2
  | .cname .. => 5
  | .soa .. => 6
  | .ptr .. => 12
  | .mx .. => 15
  | .txt .. => 16
  | .aaaa .. => 28
  | .srv .. => 33
  | .caa .. => 257
  | .other rtype _ => rtype

def Rdata.pieces : Rdata → List Piece
  | .a ip => [.raw ip.octets.toList]
  | .aaaa ip => [.raw ip.octets.toList]
  | .cname name | .ns name | .ptr name => [.name name]
  | .mx preference exchange => [.raw (be16 preference), .name exchange]
  | .txt strings => [.raw (strings.flatMap charString)]
  | .soa mname rname serial refresh retry expire minimum =>
    [.name mname, .name rname,
      .raw (be32 serial ++ be32 refresh ++ be32 retry ++ be32 expire ++ be32 minimum)]
  | .caa flags tag value => [.raw (flags :: charString tag ++ value)]
  | .srv priority weight port target =>
    [.raw (be16 priority ++ be16 weight ++ be16 port), .name target]
  | .other _ bytes => [.raw bytes]

/-- What a record says, `none` for a type that is not supported. -/
def Rdata.value : Rdata → Option DnsRecord
  | .a ip => some (.a ip)
  | .aaaa ip => some (.aaaa ip)
  | .cname name => some (.cname name.text)
  | .ns name => some (.ns name.text)
  | .ptr name => some (.ptr name.text)
  | .mx preference exchange => some (.mx preference exchange.text)
  | .txt strings => some (.txt (String.join (strings.map fromUtf8Lossy)))
  | .soa mname rname serial refresh retry expire minimum =>
    some (.soa (soaText mname.text rname.text serial.toNat refresh.toNat retry.toNat
      expire.toNat minimum.toNat))
  | .caa flags tag value => some (.caa flags (fromUtf8Lossy tag) (fromUtf8Lossy value))
  | .srv priority weight port target => some (.srv priority weight port target.text)
  | .other .. => none

/-- The lengths in the data fit into their bytes, and only the supported types have a layout. -/
def Rdata.WellFormed (rdata : Rdata) : Prop :=
  (piecesBytes rdata.pieces).length < 2 ^ 16 ∧
    match rdata with
    | .txt strings => ∀ s ∈ strings, s.length < 2 ^ 8
    | .caa _ tag _ => tag.length < 2 ^ 8
    | .other rtype _ => ∀ want, isWanted want rtype.toNat = false
    | _ => True

structure Answer where
  name : WireName
  rclass : UInt16
  ttl : UInt32
  rdata : Rdata

def Answer.pieces (a : Answer) : List Piece :=
  .name a.name ::
    .raw (be16 a.rdata.rtype ++ be16 a.rclass ++ be32 a.ttl ++
      be16 (UInt16.ofNat (piecesBytes a.rdata.pieces).length)) :: a.rdata.pieces

/-- A well-formed message, with anything after its answers. -/
structure Message where
  id : UInt16
  flags : UInt16
  questions : List Question
  answers : List Answer
  nscount : UInt16
  arcount : UInt16
  trailing : List UInt8
  qdcount_lt : questions.length < 2 ^ 16
  ancount_lt : answers.length < 2 ^ 16
  wellFormed : ∀ a ∈ answers, a.rdata.WellFormed
  fits : PiecesFit (questions.flatMap Question.pieces ++ answers.flatMap Answer.pieces) 12 []

def Message.header (m : Message) : List UInt8 :=
  be16 m.id ++ be16 m.flags ++ be16 (UInt16.ofNat m.questions.length) ++
    be16 (UInt16.ofNat m.answers.length) ++ be16 m.nscount ++ be16 m.arcount

def Message.bytes (m : Message) : List UInt8 :=
  m.header ++ (piecesBytes (m.questions.flatMap Question.pieces) ++
    (piecesBytes (m.answers.flatMap Answer.pieces) ++ m.trailing))

def wantedAnswers (want : DnsRecordType) (answers : List Answer) : List Answer :=
  answers.filter (fun a => a.rdata.recordType = some want)

/-- What a message says of a wanted type. -/
def Message.response (m : Message) (want : DnsRecordType) : ParsedDnsResponse where
  rcode := UInt8.ofNat (m.flags.toNat % 2 ^ 4)
  ttl := (wantedAnswers want m.answers).head?.map Answer.ttl
  records := (wantedAnswers want m.answers).filterMap (fun a => a.rdata.value)
  sawCname := m.answers.any (fun a => a.rdata.rtype = 5)

end IpTools

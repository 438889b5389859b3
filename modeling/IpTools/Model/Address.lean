import Mathlib.Algebra.Ring.Int.Defs
import Mathlib.Algebra.Ring.Nat
import Mathlib.Data.List.Basic
import Mathlib.Tactic.Common

/-!
# Internet addresses

The address types of the standard library that observations carry: their derived order
(which `BTreeMap` and `BTreeSet` iterate in), their display text, and the parser behind
`str::parse::<IpAddr>`.
-/

namespace IpTools

/-- An IPv4 address, most significant octet first. -/
structure Ipv4Addr where
  octets : Vector UInt8 4
deriving DecidableEq, Repr

def Ipv4Addr.new (a b c d : UInt8) : Ipv4Addr := ⟨#v[a, b, c, d]⟩

/-- An IPv6 address, most significant octet first. -/
structure Ipv6Addr where
  octets : Vector UInt8 16
deriving DecidableEq, Repr

inductive IpAddr where
  | v4 (ip : Ipv4Addr)
  | v6 (ip : Ipv6Addr)
deriving DecidableEq, Repr

structure SocketAddrV4 where
  ip : Ipv4Addr
  port : UInt16
deriving DecidableEq, Repr

structure SocketAddrV6 where
  ip : Ipv6Addr
  port : UInt16
  flowinfo : UInt32
  scopeId : UInt32
deriving DecidableEq, Repr

inductive SocketAddr where
  | v4 (addr : SocketAddrV4)
  | v6 (addr : SocketAddrV6)
deriving DecidableEq, Repr

def IpAddr.isIpv4 : IpAddr → Bool
  | .v4 _ => true
  | .v6 _ => false

def SocketAddr.isIpv4 : SocketAddr → Bool
  | .v4 _ => true
  | .v6 _ => false

def SocketAddr.port : SocketAddr → UInt16
  | .v4 a => a.port
  | .v6 a => a.port

def SocketAddr.ip : SocketAddr → IpAddr
  | .v4 a => .v4 a.ip
  | .v6 a => .v6 a.ip

/-- `SocketAddr::new`. -/
def SocketAddr.new : IpAddr → UInt16 → SocketAddr
  | .v4 ip, port => .v4 ⟨ip, port⟩
  | .v6 ip, port => .v6 ⟨ip, port, 0, 0⟩

/-- The derived order compares the variant and then the fields, octet by octet. -/
def IpAddr.key : IpAddr → List Nat
  | .v4 ip => 0 :: ip.octets.toList.map UInt8.toNat
  | .v6 ip => 1 :: ip.octets.toList.map UInt8.toNat

def SocketAddr.key : SocketAddr → List Nat
  | .v4 a => 0 :: (a.ip.octets.toList.map UInt8.toNat ++ [a.port.toNat])
  | .v6 a => 1 :: (a.ip.octets.toList.map UInt8.toNat ++
      [a.port.toNat, a.flowinfo.toNat, a.scopeId.toNat])

lemma octets_toNat_injective {n : Nat} {u v : Vector UInt8 n}
    (h : u.toList.map UInt8.toNat = v.toList.map UInt8.toNat) : u = v := by
  have hl : u.toList = v.toList :=
    List.map_injective_iff.mpr (fun _ _ he => UInt8.toNat_inj.mp he) h
  exact Vector.toList_inj.mp hl

lemma IpAddr.key_injective : Function.Injective IpAddr.key := by
  rintro (⟨u⟩ | ⟨u⟩) (⟨v⟩ | ⟨v⟩) h <;> simp only [key, List.cons.injEq, true_and] at h
  · exact congrArg (fun o => IpAddr.v4 ⟨o⟩) (octets_toNat_injective h)
  · exact absurd h.1 (by decide)
  · exact absurd h.1 (by decide)
  · exact congrArg (fun o => IpAddr.v6 ⟨o⟩) (octets_toNat_injective h)

lemma SocketAddr.key_injective : Function.Injective SocketAddr.key := by
  rintro (⟨⟨u⟩, p⟩ | ⟨⟨u⟩, p, f, s⟩) (⟨⟨v⟩, q⟩ | ⟨⟨v⟩, q, g, t⟩) h <;>
    simp only [key, List.cons.injEq, true_and] at h
  · obtain ⟨ho, hp⟩ := List.append_inj h (by simp)
    simp only [List.cons.injEq, and_true] at hp
    rw [octets_toNat_injective ho, UInt16.toNat_inj.mp hp]
  · exact absurd h.1 (by decide)
  · exact absurd h.1 (by decide)
  · obtain ⟨ho, hp⟩ := List.append_inj h (by simp)
    simp only [List.cons.injEq, and_true] at hp
    rw [octets_toNat_injective ho, UInt16.toNat_inj.mp hp.1, UInt32.toNat_inj.mp hp.2.1,
      UInt32.toNat_inj.mp hp.2.2]

instance : Ord IpAddr := ⟨compareOn IpAddr.key⟩

instance : Std.TransOrd IpAddr := inferInstanceAs (Std.TransCmp (compareOn IpAddr.key))

instance : Std.LawfulEqOrd IpAddr where
  eq_of_compare h := IpAddr.key_injective (Std.LawfulEqOrd.eq_of_compare h)

instance : Ord SocketAddr := ⟨compareOn SocketAddr.key⟩

instance : Std.TransOrd SocketAddr := inferInstanceAs (Std.TransCmp (compareOn SocketAddr.key))

instance : Std.LawfulEqOrd SocketAddr where
  eq_of_compare h := SocketAddr.key_injective (Std.LawfulEqOrd.eq_of_compare h)

instance : ToString Ipv4Addr where
  toString ip := ".".intercalate (ip.octets.toList.map (fun o => toString o.toNat))

/-- The eight 16-bit segments. -/
def Ipv6Addr.segments (ip : Ipv6Addr) : List Nat :=
  (List.range 8).map (fun i => ip.octets[2 * i]!.toNat * 256 + ip.octets[2 * i + 1]!.toNat)

/-- The IPv4 address of an IPv4-mapped address `::ffff:a.b.c.d`. -/
def Ipv6Addr.toIpv4Mapped (ip : Ipv6Addr) : Option Ipv4Addr :=
  if ip.segments.take 6 = [0, 0, 0, 0, 0, 0xffff] then
    some ⟨#v[ip.octets[12], ip.octets[13], ip.octets[14], ip.octets[15]]⟩
  else none

/-- A run of zero segments. -/
structure Span where
  start : Nat
  len : Nat
deriving DecidableEq, Repr

/-- The first longest run of zero segments: the loop over the segments from index `i`. -/
def longestZeros : Nat → Span → Span → List Nat → Span
  | _, longest, _, [] => longest
  | i, longest, current, segment :: rest =>
    if segment = 0 then
      let start := if current.len = 0 then i else current.start
      let current : Span := ⟨start, current.len + 1⟩
      longestZeros (i + 1) (if current.len > longest.len then current else longest) current rest
    else longestZeros (i + 1) longest ⟨0, 0⟩ rest

/-- The colon-separated lowercase hexadecimal text of some segments. -/
def fmtSubslice (chunk : List Nat) : String :=
  ":".intercalate (chunk.map (fun s => String.ofList (Nat.toDigits 16 s)))

instance : ToString Ipv6Addr where
  toString ip :=
    match ip.toIpv4Mapped with
    | some ipv4 => "::ffff:" ++ toString ipv4
    | none =>
      let zeroes := longestZeros 0 ⟨0, 0⟩ ⟨0, 0⟩ ip.segments
      if zeroes.len > 1 then
        fmtSubslice (ip.segments.take zeroes.start) ++ "::" ++
          fmtSubslice (ip.segments.drop (zeroes.start + zeroes.len))
      else fmtSubslice ip.segments

instance : ToString IpAddr where
  toString
    | .v4 ip => toString ip
    | .v6 ip => toString ip

instance : ToString SocketAddr where
  toString
    | .v4 a => toString a.ip ++ ":" ++ toString a.port.toNat
    | .v6 a =>
      if a.scopeId = 0 then "[" ++ toString a.ip ++ "]:" ++ toString a.port.toNat
      else "[" ++ toString a.ip ++ "%" ++ toString a.scopeId.toNat ++ "]:" ++ toString a.port.toNat

example : toString (SocketAddr.v6 ⟨⟨#v[0x20, 1, 0xd, 0xb8, 0, 0, 0, 0, 0, 0, 0, 0, 0, 0, 0, 1]⟩,
    443, 0, 0⟩) = "[2001:db8::1]:443" := by decide +kernel

/-! Each reader takes the remaining input and gives back what it read and the rest; a reader that
fails leaves the caller its own input, as `read_atomically` does. -/

abbrev Reader (α : Type) := List Char → Option (α × List Char)

/-- `char::to_digit` for a radix of at most 16. -/
def toDigit (radix : Nat) (c : Char) : Option Nat :=
  let d :=
    if '0' ≤ c ∧ c ≤ '9' then some (c.toNat - '0'.toNat)
    else if 'a' ≤ c ∧ c ≤ 'f' then some (c.toNat - 'a'.toNat + 10)
    else if 'A' ≤ c ∧ c ≤ 'F' then some (c.toNat - 'A'.toNat + 10)
    else none
  d.filter (· < radix)

def readGivenChar (target : Char) : Reader Unit
  | c :: rest => if c = target then some ((), rest) else none
  | [] => none

/-- Reads `inner` after the separator, which the first item does not have. -/
def readSeparator {α : Type} (sep : Char) (index : Nat) (inner : Reader α) : Reader α := fun s =>
  if index > 0 then (readGivenChar sep s).bind (fun r => inner r.2) else inner s

/-- A number of at most `maxDigits` digits that is below `bound`. -/
def readNumber (radix maxDigits bound : Nat) (allowZeroPrefix : Bool) : Reader Nat := fun s =>
  let digits := s.takeWhile (fun c => (toDigit radix c).isSome)
  let value := digits.foldl (fun acc c => acc * radix + (toDigit radix c).getD 0) 0
  if digits.length > maxDigits then none
  else if digits.length = 0 then none
  else if !allowZeroPrefix && digits.head? == some '0' && digits.length > 1 then none
  else if value < bound then some (value, s.drop digits.length)
  else none

def readIpv4Addr : Reader Ipv4Addr := fun s => do
  let (a, s) ← readSeparator '.' 0 (readNumber 10 3 256 false) s
  let (b, s) ← readSeparator '.' 1 (readNumber 10 3 256 false) s
  let (c, s) ← readSeparator '.' 2 (readNumber 10 3 256 false) s
  let (d, s) ← readSeparator '.' 3 (readNumber 10 3 256 false) s
  return (⟨#v[a.toUInt8, b.toUInt8, c.toUInt8, d.toUInt8]⟩, s)

/-- The loop of `read_groups` from group `i`: the groups read and whether they end in an
embedded IPv4 address, which needs two groups left. -/
def readGroups (limit : Nat) : Nat → Nat → List Char → (List Nat × Bool) × List Char
  | 0, _, s => (([], false), s)
  | remaining + 1, i, s =>
    let embedded := if i < limit - 1 then readSeparator ':' i readIpv4Addr s else none
    match embedded with
    | some (ip, rest) =>
      (([ip.octets[0].toNat * 256 + ip.octets[1].toNat,
        ip.octets[2].toNat * 256 + ip.octets[3].toNat], true), rest)
    | none =>
      match readSeparator ':' i (readNumber 16 4 65536 true) s with
      | some (group, rest) =>
        let ((groups, ipv4), rest) := readGroups limit remaining (i + 1) rest
        ((group :: groups, ipv4), rest)
      | none => (([], false), s)

/-- The address of eight segments. -/
def Ipv6Addr.ofSegments (groups : List Nat) : Ipv6Addr :=
  ⟨Vector.ofFn (fun i : Fin 16 =>
    let group := groups.getD (i.val / 2) 0
    if i.val % 2 = 0 then (group / 256).toUInt8 else (group % 256).toUInt8)⟩

def readIpv6Addr : Reader Ipv6Addr := fun s => do
  let ((head, headIpv4), s) := readGroups 8 8 0 s
  if head.length = 8 then return (.ofSegments head, s)
  if headIpv4 then none
  let ((), s) ← readGivenChar ':' s
  let ((), s) ← readGivenChar ':' s
  let limit := 8 - (head.length + 1)
  let ((tail, _), s) := readGroups limit limit 0 s
  return (.ofSegments (head ++ List.replicate (8 - head.length - tail.length) 0 ++ tail), s)

def readIpAddr : Reader IpAddr := fun s =>
  match readIpv4Addr s with
  | some (ip, rest) => some (.v4 ip, rest)
  | none => (readIpv6Addr s).map (fun r => (.v6 r.1, r.2))

/-- `str::parse::<IpAddr>`: the reader must consume the whole text. -/
def parseIpAddr (s : List Char) : Option IpAddr :=
  match readIpAddr s with
  | some (ip, []) => some ip
  | _ => none

/-- `str::parse::<Ipv6Addr>`. -/
def parseIpv6Addr (s : List Char) : Option Ipv6Addr :=
  match readIpv6Addr s with
  | some (ip, []) => some ip
  | _ => none

example : parseIpAddr "2001:db8::1".toList = some (.v6 ⟨#v[0x20, 1, 0xd, 0xb8, 0, 0, 0, 0, 0, 0,
    0, 0, 0, 0, 0, 1]⟩) := by decide +kernel

end IpTools

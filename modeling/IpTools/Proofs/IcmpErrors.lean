import IpTools.Route.Icmp

/-!
# ICMP errors

The parser stays within the packet and recognises every error that quotes a UDP datagram. It takes
the lengths of the two IP headers as they come, so it also accepts quotes that no IP header fits.
-/

namespace IpTools

/-- A byte of a packet. -/
def octet (buf : List UInt8) (i : Nat) : UInt8 := buf.getD i 0

/-- The length of an IPv4 header in words of four bytes, by its first byte. -/
def headerWords (first : UInt8) : Nat := (first &&& 0x0f).toNat

def icmpStart (buf : List UInt8) : Nat := headerWords (octet buf 0) * 4

def quotedStart (buf : List UInt8) : Nat := icmpStart buf + 8

def udpStart (buf : List UInt8) : Nat :=
  quotedStart buf + headerWords (octet buf (quotedStart buf)) * 4

/-- A packet that passes the checks of the parser. -/
structure Accepted (buf : List UInt8) (len : Nat) : Prop where
  length : 28 ≤ len
  icmp : quotedStart buf ≤ len
  type : octet buf (icmpStart buf) = 11 ∨ octet buf (icmpStart buf) = 3
  quoted : quotedStart buf + 20 ≤ len
  version : octet buf (quotedStart buf) >>> 4 = 4
  protocol : octet buf (quotedStart buf + 9) = 17
  udp : udpStart buf + 4 ≤ len

/-- What the parser returns of a packet that it accepts. -/
def quotedPort (buf : List UInt8) : UInt8 × UInt16 :=
  (octet buf (icmpStart buf),
    UInt16.ofNat ((octet buf (udpStart buf)).toNat * 256 + (octet buf (udpStart buf + 1)).toNat))

lemma getElem?_octet {buf : List UInt8} {len i : Nat} (hlen : len ≤ buf.length) (hi : i < len) :
    buf[i]? = some (octet buf i) := by
  have hlt : i < buf.length := Nat.lt_of_lt_of_le hi hlen
  unfold octet
  rw [List.getD_eq_getElem?_getD, List.getElem?_eq_getElem hlt, Option.getD_some]

/-- One check and one read after the other. -/
lemma parseIcmpUdpSrc_meets {buf : List UInt8} {len : Nat} (hlen : len ≤ buf.length) :
    Reads.Meets buf len (parseIcmpUdpSrc len) (fun result =>
      Accepted buf len ∧ result = some (quotedPort buf) ∨ ¬Accepted buf len ∧ result = none) := by
  have hcell : ∀ {i : Nat} {f : UInt8 → Reads UInt8 (Option (UInt8 × UInt16))} {post},
      i < len → Reads.Meets buf len (f (octet buf i)) post →
      Reads.Meets buf len (Reads.cell i >>= f) post :=
    fun hi h => h.cell_bind hi (getElem?_octet hlen hi)
  have hreject : ¬Accepted buf len → Reads.Meets buf len (pure none) (fun result =>
      Accepted buf len ∧ result = some (quotedPort buf) ∨ ¬Accepted buf len ∧ result = none) :=
    fun h => .pure (.inr ⟨h, rfl⟩)
  refine .ite (fun hlength => hreject (fun h => ?_)) (fun hlength => hcell (by omega) ?_)
  · exact absurd h.length (by omega)
  refine .ite (fun hicmp => hreject (fun h => ?_)) (fun hicmp => hcell (by omega) ?_)
  · exact absurd h.icmp (Nat.not_le.mpr hicmp)
  refine .ite (fun htype => hreject (fun h => ?_)) (fun htype => ?_)
  · exact h.type.elim htype.1 htype.2
  refine .ite (fun hquoted => hreject (fun h => ?_)) (fun hquoted => hcell (by omega) ?_)
  · exact absurd h.quoted (Nat.not_le.mpr hquoted)
  refine .ite (fun hversion => hreject (fun h => ?_)) (fun hversion => hcell (by omega) ?_)
  · exact hversion h.version
  refine .ite (fun hprotocol => hreject (fun h => ?_)) (fun hprotocol => hcell (by omega) ?_)
  · exact hprotocol h.protocol
  refine .ite (fun hudp => hreject (fun h => ?_))
    (fun hudp => hcell (by omega) (hcell (by omega) (.pure (.inl ⟨?_, rfl⟩))))
  · exact absurd h.udp (Nat.not_le.mpr hudp)
  have htype : octet buf (icmpStart buf) = 11 ∨ octet buf (icmpStart buf) = 3 := by
    by_contra hnot
    exact htype (not_or.mp hnot)
  exact ⟨Nat.not_lt.mp hlength, Nat.not_lt.mp hicmp, htype, Nat.not_lt.mp hquoted,
    not_not.mp hversion, not_not.mp hprotocol, Nat.not_lt.mp hudp⟩

lemma run_parseIcmpUdpSrc_iff {buf : List UInt8} {len : Nat} (hlen : len ≤ buf.length)
    (result : UInt8 × UInt16) :
    (parseIcmpUdpSrc len).run buf = some (some result) ↔
      Accepted buf len ∧ result = quotedPort buf := by
  obtain ⟨a, hwithin, ⟨haccepted, rfl⟩ | ⟨hnot, rfl⟩⟩ := parseIcmpUdpSrc_meets hlen
  · rw [hwithin.run, Option.some_inj, Option.some_inj]
    exact ⟨fun h => ⟨haccepted, h.symm⟩, fun h => h.2.symm⟩
  · rw [hwithin.run, Option.some_inj]
    exact iff_of_false (fun h => by cases h) (fun h => hnot h.1)

/-- An error that quotes a UDP datagram over IPv4, with the source port of that datagram. -/
structure UdpError (buf : List UInt8) (len : Nat) (icmpType : UInt8) (port : UInt16) : Prop where
  outer : 5 ≤ headerWords (octet buf 0)
  quoted : 5 ≤ headerWords (octet buf (quotedStart buf))
  type : icmpType = octet buf (icmpStart buf)
  kind : icmpType = 3 ∨ icmpType = 11
  version : octet buf (quotedStart buf) >>> 4 = 4
  protocol : octet buf (quotedStart buf + 9) = 17
  port : port.toNat =
    256 * (octet buf (udpStart buf)).toNat + (octet buf (udpStart buf + 1)).toNat
  within : udpStart buf + 4 ≤ len

/-- The parser stays within the packet and returns the errors that quote a UDP datagram. -/
structure ParsesErrors (buf : List UInt8) (len : Nat) : Prop where
  inBounds : ∀ i ∈ (parseIcmpUdpSrc len).places buf, i < len
  sound : ∀ icmpType port, (parseIcmpUdpSrc len).run buf = some (some (icmpType, port)) →
    UdpError buf len icmpType port
  complete : ∀ icmpType port, UdpError buf len icmpType port →
    (parseIcmpUdpSrc len).run buf = some (some (icmpType, port))

/-- A packet that passes the checks with an IP header of fewer than five words. -/
structure Undersized (buf : List UInt8) (len : Nat) : Prop extends Accepted buf len where
  words : headerWords (octet buf 0) < 5 ∨ headerWords (octet buf (quotedStart buf)) < 5

lemma UdpError.accepted {buf : List UInt8} {len : Nat} {icmpType : UInt8} {port : UInt16}
    (h : UdpError buf len icmpType port) : Accepted buf len := by
  have houter := h.outer
  have hquoted := h.quoted
  have hwithin := h.within
  have hstart : quotedStart buf = headerWords (octet buf 0) * 4 + 8 := rfl
  have hudp : udpStart buf =
    quotedStart buf + headerWords (octet buf (quotedStart buf)) * 4 := rfl
  exact ⟨by omega, by omega, h.type ▸ h.kind.symm, by omega, h.version, h.protocol, h.within⟩

lemma quotedPort_eq_iff {buf : List UInt8} {icmpType : UInt8} {port : UInt16} :
    (icmpType, port) = quotedPort buf ↔ icmpType = octet buf (icmpStart buf) ∧ port.toNat =
      256 * (octet buf (udpStart buf)).toNat + (octet buf (udpStart buf + 1)).toNat := by
  have hhigh := (octet buf (udpStart buf)).toNat_lt
  have hlow := (octet buf (udpStart buf + 1)).toNat_lt
  unfold quotedPort
  rw [Prod.mk.injEq, ← UInt16.toNat_inj, UInt16.toNat_ofNat', Nat.mod_eq_of_lt (by omega),
    Nat.mul_comm]

/-- The well-formed errors are the packets that pass the checks with headers of five words. -/
lemma udpError_iff {buf : List UInt8} {len : Nat} {icmpType : UInt8} {port : UInt16} :
    UdpError buf len icmpType port ↔ (Accepted buf len ∧ (icmpType, port) = quotedPort buf) ∧
      5 ≤ headerWords (octet buf 0) ∧ 5 ≤ headerWords (octet buf (quotedStart buf)) := by
  rw [quotedPort_eq_iff]
  constructor
  · intro h
    exact ⟨⟨h.accepted, h.type, h.port⟩, h.outer, h.quoted⟩
  · rintro ⟨⟨haccepted, htype, hport⟩, houter, hquoted⟩
    exact ⟨houter, hquoted, htype, htype ▸ haccepted.type.symm, haccepted.version,
      haccepted.protocol, hport, haccepted.udp⟩

/-- The parser keeps to well-formed errors but where it accepts an undersized IP header. -/
theorem parsesErrors_iff {buf : List UInt8} {len : Nat} (hlen : len ≤ buf.length) :
    ParsesErrors buf len ↔ ¬Undersized buf len := by
  obtain ⟨a, hwithin, -⟩ := parseIcmpUdpSrc_meets hlen
  constructor
  · intro h hundersized
    have herror := h.sound _ _
      ((run_parseIcmpUdpSrc_iff hlen (quotedPort buf)).mpr ⟨hundersized.toAccepted, rfl⟩)
    have houter := herror.outer
    have hquoted := herror.quoted
    have hwords := hundersized.words
    omega
  · intro hnot
    refine ⟨hwithin.places, fun icmpType port h => ?_, fun icmpType port h => ?_⟩
    · have hread := (run_parseIcmpUdpSrc_iff hlen _).mp h
      have hwords : ¬(headerWords (octet buf 0) < 5 ∨
        headerWords (octet buf (quotedStart buf)) < 5) := fun hw => hnot ⟨hread.1, hw⟩
      exact udpError_iff.mpr ⟨hread, by omega, by omega⟩
    · exact (run_parseIcmpUdpSrc_iff hlen _).mpr (udpError_iff.mp h).1

/-- A time-exceeded error with the given first byte of the quoted IP header. -/
def timeExceeded (quotedFirst : UInt8) : List UInt8 :=
  [0x45, 0, 0, 0, 0, 0, 0, 0, 0, 0, 64, 0, 0, 0, 0, 0, 0, 0, 0, 0] ++ [11, 0, 0, 0, 0, 0, 0, 0] ++
    [quotedFirst, 0, 0, 0, 0, 0, 0, 0, 64, 17, 0, 0, 0, 0, 0, 0, 0, 0, 0, 0] ++
    [0x12, 0x34, 0x82, 0x9a, 0, 8, 0, 0]

theorem parsesErrors_timeExceeded :
    ParsesErrors (timeExceeded 0x45) (timeExceeded 0x45).length := by
  refine (parsesErrors_iff (Nat.le_refl _)).mpr (fun h => ?_)
  have hwords := h.words
  revert hwords
  decide

/-- The length nibble of the quoted header is 0: its own first bytes are read as the port. -/
theorem not_parsesErrors_zeroWords :
    ¬ParsesErrors (timeExceeded 0x40) (timeExceeded 0x40).length := by
  intro h
  have hrun : (parseIcmpUdpSrc (timeExceeded 0x40).length).run (timeExceeded 0x40) =
      some (some (11, 0x4000)) := by decide
  have hquoted := (h.sound 11 0x4000 hrun).quoted
  revert hquoted
  decide

/-- A packet whose IP headers have five words or more: its own one, and that of the datagram that it
quotes where it is an ICMP error. -/
structure SoundHeaders (buf : List UInt8) : Prop where
  outer : 5 ≤ headerWords (octet buf 0)
  quoted : octet buf (icmpStart buf) = 11 ∨ octet buf (icmpStart buf) = 3 →
    octet buf (quotedStart buf) >>> 4 = 4 → 5 ≤ headerWords (octet buf (quotedStart buf))

/-- Among packets with sound headers, the parser returns the errors that quote a UDP datagram. -/
lemma SoundHeaders.run_iff {buf : List UInt8} (h : SoundHeaders buf) {icmpType : UInt8}
    {port : UInt16} : (parseIcmpUdpSrc buf.length).run buf = some (some (icmpType, port)) ↔
      UdpError buf buf.length icmpType port := by
  rw [run_parseIcmpUdpSrc_iff (Nat.le_refl _), udpError_iff]
  constructor
  · intro hread
    exact ⟨hread, h.outer, h.quoted hread.1.type hread.1.version⟩
  · exact And.left

end IpTools

import IpTools.Library.ReadTrace

/-!
# ICMP errors

The parser of the replies to a traceroute. A reply quotes the datagram that it answers: an outer IP
header, the ICMP header of 8 bytes, the IP header of the quoted datagram and its UDP header.
-/

namespace IpTools

/-- The ICMP type and the UDP source port of the quoted datagram. The packet is the first `len`
bytes of the buffer. -/
def parseIcmpUdpSrc (len : Nat) : Reads UInt8 (Option (UInt8 × UInt16)) :=
  if len < 28 then pure none else do
  let outerIhl := ((← Reads.cell 0) &&& 0x0f).toNat * 4
  if len < outerIhl + 8 then pure none else do
  let icmpType ← Reads.cell outerIhl
  if icmpType ≠ 11 ∧ icmpType ≠ 3 then pure none else do
  let innerStart := outerIhl + 8
  if len < innerStart + 20 then pure none else do
  -- the protocol is only read where the version is right
  if (← Reads.cell innerStart) >>> 4 ≠ 4 then pure none else do
  if (← Reads.cell (innerStart + 9)) ≠ 17 then pure none else do
  let innerIhl := ((← Reads.cell innerStart) &&& 0x0f).toNat * 4
  let udpStart := innerStart + innerIhl
  if len < udpStart + 4 then pure none else do
  let high ← Reads.cell udpStart
  let low ← Reads.cell (udpStart + 1)
  pure (some (icmpType, UInt16.ofNat (high.toNat * 256 + low.toNat)))

end IpTools

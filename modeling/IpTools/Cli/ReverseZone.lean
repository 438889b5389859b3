import IpTools.Model.Address

/-!
# Reverse zones

The name under which the pointer record of an address is looked up.
-/

namespace IpTools

/-- The name of an address in `in-addr.arpa` or `ip6.arpa`. -/
def reverseZone : IpAddr → String
  | .v4 v4 =>
    let o := v4.octets.map UInt8.toNat
    s!"{o.get 3}.{o.get 2}.{o.get 1}.{o.get 0}.in-addr.arpa"
  | .v6 v6 =>
    -- the low nibble of each octet first, and a nibble is always a digit
    String.ofList (v6.octets.toList.reverse.flatMap (fun (b : UInt8) =>
      [b &&& 0x0f, b >>> 4].flatMap (fun (n : UInt8) => [Nat.digitChar n.toNat, '.']))) ++
      "ip6.arpa"

example : reverseZone (.v6 ⟨#v[0x20, 1, 0xd, 0xb8, 0, 0, 0, 0, 0, 0, 0, 0, 0, 0, 0, 1]⟩) =
    "1.0.0.0.0.0.0.0.0.0.0.0.0.0.0.0.0.0.0.0.0.0.0.0.8.b.d.0.1.0.0.2.ip6.arpa" := by
  decide +kernel

end IpTools

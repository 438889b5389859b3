import IpTools.Model.Observation

/-!
# The text of a record

What the reports, the JSON output and the CSV output write of a DNS record. The names of a record
come from the network, so that their control characters are escaped.
-/

namespace IpTools

/-- `char::is_control`: the characters of the category `Cc`. -/
def isControl (c : Char) : Bool := c.toNat < 0x20 || (0x7f ≤ c.toNat && c.toNat < 0xa0)

/-- `{:03o}`. -/
def octal3 (n : Nat) : List Char :=
  let digits := Nat.toDigits 8 n
  List.replicate (3 - digits.length) '0' ++ digits

/-- Control characters as `\NNN`, the other ones verbatim. -/
def escPresent (s : String) : String :=
  String.ofList (s.toList.flatMap fun c =>
    if isControl c then '\\' :: octal3 c.toNat else [c])

/-- The text of a record, given the characters from U+00A0 on that `Debug` escapes. -/
def DnsRecord.display (unprintable : Char → Bool) : DnsRecord → String
  | .a ip => toString ip
  | .aaaa ip => toString ip
  | .cname name | .ns name | .ptr name => escPresent name
  | .mx preference exchange => s!"{preference.toNat} {escPresent exchange}"
  | .txt text => textDebug unprintable text
  | .soa fields => escPresent fields
  | .caa flags tag value => s!"{flags.toNat} {tag} {escPresent value}"
  | .srv priority weight port target =>
    s!"{priority.toNat} {weight.toNat} {port.toNat} {escPresent target}"

end IpTools

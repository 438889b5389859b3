import IpTools.Cli.ReverseZone
import IpTools.Library.ByteBits
import IpTools.Proofs.QueryNames

/-!
# Reverse zones as query names

The zone of an address is a name that queries can ask for, and the address is read back from its
labels.
-/

namespace IpTools

/-- A decimal octet. -/
def labelOctet (label : List Char) : Option UInt8 :=
  if label ≠ [] ∧ label.all Char.isDigit then
    let n := Nat.ofDigitChars 10 label 0
    if n < 256 then some (UInt8.ofNat n) else none
  else none

/-- A hexadecimal digit. -/
def labelNibble : List Char → Option Nat
  | [c] => toDigit 16 c
  | _ => none

def nibbleOctets : List Nat → List UInt8
  | high :: low :: rest => UInt8.ofNat (high * 16 + low) :: nibbleOctets rest
  | _ => []

def octetsAddress (labels : List (List Char)) : Option IpAddr := do
  let octets ← labels.mapM labelOctet
  if h : octets.length = 4 then some (.v4 ⟨⟨octets.toArray, h⟩⟩) else none

def nibblesAddress (labels : List (List Char)) : Option IpAddr := do
  let nibbles ← labels.mapM labelNibble
  if h : (nibbleOctets nibbles).length = 16 then
    some (.v6 ⟨⟨(nibbleOctets nibbles).toArray, h⟩⟩)
  else none

/-- The address whose octets or nibbles are the labels of a zone, from the last one on. -/
def zoneAddress (zone : String) : Option IpAddr :=
  match (zone.toList.splitOn '.').reverse with
  | top :: second :: labels =>
    if top = "arpa".toList ∧ second = "in-addr".toList then octetsAddress labels
    else if top = "arpa".toList ∧ second = "ip6".toList then nibblesAddress labels
    else none
  | _ => none

example : zoneAddress "77.2.0.192.in-addr.arpa" = some (.v4 (.new 192 0 2 77)) := by
  decide +kernel

/-- A label that stands for itself in a name. -/
def QueryLabel (label : List Char) : Prop :=
  '.' ∉ label ∧ 1 ≤ (Utf8.encode label).length ∧ (Utf8.encode label).length ≤ 63

instance : DecidablePred QueryLabel := fun label => by unfold QueryLabel; infer_instance

section Names

variable {labels : List (List Char)}

lemma splitOn_labels (hne : labels ≠ []) (h : ∀ label ∈ labels, QueryLabel label) :
    (['.'].intercalate labels).splitOn '.' = labels :=
  List.splitOn_intercalate '.' (fun label hlabel => (h label hlabel).1) hne

/-- A name of labels that are not empty does not end in a dot. -/
lemma queryName_labels (hne : labels ≠ []) (h : ∀ label ∈ labels, QueryLabel label) :
    queryName (['.'].intercalate labels) = ['.'].intercalate labels := by
  have hlast : (['.'].intercalate labels).getLast? ≠ some '.' := by
    intro hdot
    obtain ⟨front, hfront⟩ := List.getLast?_eq_some_iff.mp hdot
    have hsplit := splitOn_labels hne h
    rw [hfront, List.splitOn_append_cons_self] at hsplit
    have hempty : [] ∈ labels := by
      rw [← hsplit]
      simp
    exact absurd (h [] hempty).2.1 (by decide)
  unfold queryName stripSuffix
  rw [if_neg hlast]
  rfl

/-- A query for a name of such labels is built, and the name is read back from it. -/
lemma query_labels [DebugTables] (hne : labels ≠ []) (h : ∀ label ∈ labels, QueryLabel label)
    (recordType : DnsRecordType) :
    ∃ q, buildQuery (['.'].intercalate labels) recordType = .ok q ∧
      readName q 12 = .ok (String.ofList (['.'].intercalate labels), q.length - 4) := by
  have hfit : LabelsFit (['.'].intercalate labels) := by
    unfold LabelsFit queryParts
    rw [queryName_labels hne h, splitOn_labels hne h, List.forall_mem_map]
    exact fun label hlabel => (h label hlabel).2
  obtain ⟨q, hq⟩ := (buildQuery_ok_iff _ recordType).mpr hfit
  have hread := (queryRead hq).readName
  rw [queryName_labels hne h] at hread
  exact ⟨q, hq, hread⟩

end Names

def octetLabel (o : UInt8) : List Char := Nat.toDigits 10 o.toNat

def nibbleLabel (n : UInt8) : List Char := [Nat.digitChar n.toNat]

/-- The nibbles of an octet, the low one first. -/
def octetNibbles (b : UInt8) : List UInt8 := [b &&& 0x0f, b >>> 4]

def zoneLabels : IpAddr → List (List Char)
  | .v4 v4 => v4.octets.toList.reverse.map octetLabel ++ ["in-addr".toList, "arpa".toList]
  | .v6 v6 =>
    (v6.octets.toList.reverse.flatMap octetNibbles).map nibbleLabel ++
      ["ip6".toList, "arpa".toList]

/-- Labels of one digit each with a dot after each of them. -/
lemma intercalate_digits (digits : List Char) {rest : List (List Char)} (hne : rest ≠ []) :
    ['.'].intercalate (digits.map (fun c => [c]) ++ rest) =
      digits.flatMap (fun c => [c, '.']) ++ ['.'].intercalate rest := by
  induction digits with
  | nil => rfl
  | cons c digits ih =>
    have htail : digits.map (fun c => [c]) ++ rest ≠ [] := by simp [hne]
    rw [List.map_cons, List.cons_append, List.intercalate_cons_of_ne_nil htail, ih]
    rfl

lemma reverseZone_toList (ip : IpAddr) :
    (reverseZone ip).toList = ['.'].intercalate (zoneLabels ip) := by
  cases ip with
  | v4 v4 =>
    obtain ⟨⟨⟨octets⟩, hsize⟩⟩ := v4
    match octets, hsize with
    | [a, b, c, d], _ =>
      have hdot : (toString ".").toList = ['.'] := rfl
      have harpa : (toString ".in-addr.arpa").toList = ".in-addr.arpa".toList := rfl
      obtain ⟨h0, h1, h2, h3⟩ : #v[a.toNat, b.toNat, c.toNat, d.toNat].get 0 = a.toNat ∧
          #v[a.toNat, b.toNat, c.toNat, d.toNat].get 1 = b.toNat ∧
          #v[a.toNat, b.toNat, c.toNat, d.toNat].get 2 = c.toNat ∧
          #v[a.toNat, b.toNat, c.toNat, d.toNat].get 3 = d.toNat := ⟨rfl, rfl, rfl, rfl⟩
      simp [reverseZone, h0, h1, h2, h3, zoneLabels, octetLabel, List.intercalate,
        List.intersperse, hdot, harpa]
  | v6 v6 =>
    have hdigits : (v6.octets.toList.reverse.flatMap octetNibbles).map nibbleLabel =
        ((v6.octets.toList.reverse.flatMap octetNibbles).map
          (fun n => Nat.digitChar n.toNat)).map (fun c => [c]) := by
      rw [List.map_map]
      rfl
    rw [zoneLabels, hdigits, intercalate_digits _ (List.cons_ne_nil _ _), reverseZone,
      String.toList_append, String.toList_ofList, List.flatMap_map, List.flatMap_assoc]
    rfl

lemma octetLabel_spec (o : UInt8) :
    labelOctet (octetLabel o) = some o ∧ QueryLabel (octetLabel o) := by
  have hall : ∀ n < 256, labelOctet (Nat.toDigits 10 n) = some (UInt8.ofNat n) ∧
      QueryLabel (Nat.toDigits 10 n) := by decide +kernel
  have ho := hall o.toNat o.toNat_lt
  rwa [UInt8.ofNat_toNat] at ho

lemma nibbleLabel_spec {n : UInt8} (hn : n.toNat < 16) :
    labelNibble (nibbleLabel n) = some n.toNat ∧ QueryLabel (nibbleLabel n) := by
  have hall : ∀ m < 16, labelNibble [Nat.digitChar m] = some m ∧ QueryLabel [Nat.digitChar m] := by
    decide +kernel
  exact hall n.toNat hn

lemma toNat_lowNibble (b : UInt8) : (b &&& 0x0f).toNat = b.toNat % 16 :=
  ByteBits.toNat_mask b (k := 4) (by decide)

lemma toNat_highNibble (b : UInt8) : (b >>> 4).toNat = b.toNat / 16 :=
  ByteBits.toNat_high b (k := 4) (by decide)

lemma octetNibbles_lt {b n : UInt8} (h : n ∈ octetNibbles b) : n.toNat < 16 := by
  have hb := b.toNat_lt
  simp only [octetNibbles, List.mem_cons, List.not_mem_nil, or_false] at h
  rcases h with rfl | rfl
  · rw [toNat_lowNibble]
    omega
  · rw [toNat_highNibble]
    omega

/-- The nibbles of some octets from the last one on, read backwards, give the octets. -/
lemma nibbleOctets_reverse (octets : List UInt8) :
    nibbleOctets ((octets.reverse.flatMap octetNibbles).reverse.map UInt8.toNat) = octets := by
  have hforwards : (octets.reverse.flatMap octetNibbles).reverse =
      octets.flatMap (fun (b : UInt8) => [b >>> 4, b &&& 0x0f]) := by
    rw [List.reverse_flatMap, List.reverse_reverse]
    rfl
  rw [hforwards, List.map_flatMap]
  clear hforwards
  induction octets with
  | nil => rfl
  | cons b octets ih =>
    have hb : (b >>> 4).toNat * 16 + (b &&& 0x0f).toNat = b.toNat := by
      rw [toNat_lowNibble, toNat_highNibble]
      omega
    rw [List.flatMap_cons]
    change UInt8.ofNat ((b >>> 4).toNat * 16 + (b &&& 0x0f).toNat) :: nibbleOctets _ = _
    rw [hb, UInt8.ofNat_toNat]
    exact congrArg _ ih

lemma zoneLabels_fit (ip : IpAddr) : ∀ label ∈ zoneLabels ip, QueryLabel label := by
  cases ip with
  | v4 v4 =>
    rw [zoneLabels, List.forall_mem_append, List.forall_mem_map]
    constructor
    · intro o _
      exact (octetLabel_spec o).2
    · decide
  | v6 v6 =>
    rw [zoneLabels, List.forall_mem_append, List.forall_mem_map]
    constructor
    · intro n hn
      obtain ⟨b, -, hb⟩ := List.mem_flatMap.mp hn
      exact (nibbleLabel_spec (octetNibbles_lt hb)).2
    · decide

/-- Labels that are read one by one are read all. -/
lemma mapM_labels {α β : Type} {write : α → List Char} {read : List Char → Option β} {value : α → β}
    {items : List α} (h : ∀ x ∈ items, read (write x) = some (value x)) :
    (items.map write).mapM read = some (items.map value) := by
  induction items with
  | nil => rfl
  | cons x items ih =>
    rw [List.map_cons, List.mapM_cons, h x List.mem_cons_self,
      ih (fun y hy => h y (List.mem_cons_of_mem x hy))]
    rfl

lemma octetsAddress_labels (v4 : Ipv4Addr) :
    octetsAddress (v4.octets.toList.map octetLabel) = some (.v4 v4) := by
  have hread : (v4.octets.toList.map octetLabel).mapM labelOctet = some v4.octets.toList := by
    rw [mapM_labels (fun o _ => (octetLabel_spec o).1), List.map_id']
  rw [octetsAddress, hread, Option.bind_eq_bind, Option.bind_some, dif_pos v4.octets.length_toList]
  rfl

lemma nibblesAddress_labels (v6 : Ipv6Addr) :
    nibblesAddress ((v6.octets.toList.reverse.flatMap octetNibbles).reverse.map nibbleLabel) =
      some (.v6 v6) := by
  have hread : ((v6.octets.toList.reverse.flatMap octetNibbles).reverse.map nibbleLabel).mapM
      labelNibble = some ((v6.octets.toList.reverse.flatMap octetNibbles).reverse.map
        UInt8.toNat) := by
    apply mapM_labels
    intro n hn
    obtain ⟨b, -, hb⟩ := List.mem_flatMap.mp (List.mem_reverse.mp hn)
    exact (nibbleLabel_spec (octetNibbles_lt hb)).1
  have hoctets := nibbleOctets_reverse v6.octets.toList
  rw [nibblesAddress, hread, Option.bind_eq_bind, Option.bind_some,
    dif_pos (by rw [hoctets, v6.octets.length_toList])]
  simp only [hoctets]
  rfl

lemma zoneLabels_ne_nil (ip : IpAddr) : zoneLabels ip ≠ [] := by
  cases ip <;> simp [zoneLabels]

lemma zoneAddress_reverseZone (ip : IpAddr) : zoneAddress (reverseZone ip) = some ip := by
  have hsplit : (reverseZone ip).toList.splitOn '.' = zoneLabels ip := by
    rw [reverseZone_toList]
    exact splitOn_labels (zoneLabels_ne_nil ip) (zoneLabels_fit ip)
  unfold zoneAddress
  rw [hsplit]
  cases ip with
  | v4 v4 =>
    have hlabels : (zoneLabels (.v4 v4)).reverse =
        "arpa".toList :: "in-addr".toList :: v4.octets.toList.map octetLabel := by
      rw [zoneLabels, List.reverse_append, ← List.map_reverse, List.reverse_reverse]
      rfl
    rw [hlabels]
    exact (if_pos ⟨rfl, rfl⟩).trans (octetsAddress_labels v4)
  | v6 v6 =>
    have hlabels : (zoneLabels (.v6 v6)).reverse = "arpa".toList :: "ip6".toList ::
        (v6.octets.toList.reverse.flatMap octetNibbles).reverse.map nibbleLabel := by
      rw [zoneLabels, List.reverse_append, ← List.map_reverse]
      rfl
    rw [hlabels]
    exact ((if_neg (by decide)).trans (if_pos ⟨rfl, rfl⟩)).trans (nibblesAddress_labels v6)

/-- The zone of an address can be asked for, is read back from the query, and names no other
address of either family. -/
theorem reverseZone_read [DebugTables] :
    (∀ ip : IpAddr,
      (∃ q, buildQuery (reverseZone ip).toList .ptr = .ok q ∧
        readName q 12 = .ok (reverseZone ip, q.length - 4)) ∧
      zoneAddress (reverseZone ip) = some ip) ∧
    Function.Injective reverseZone := by
  refine ⟨fun ip => ⟨?_, zoneAddress_reverseZone ip⟩, fun x y h => ?_⟩
  · have hquery := query_labels (zoneLabels_ne_nil ip) (zoneLabels_fit ip) .ptr
    rwa [← reverseZone_toList, String.ofList_toList] at hquery
  · have haddress := congrArg zoneAddress h
    rw [zoneAddress_reverseZone, zoneAddress_reverseZone] at haddress
    exact Option.some.inj haddress

end IpTools

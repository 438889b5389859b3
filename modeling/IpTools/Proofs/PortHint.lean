import IpTools.Proofs.CommandInputs

/-!
# The hint for missing brackets

A target that is an IPv6 literal with digits behind one more colon is taken at the default port,
and standard error shows the form that it may have been meant as. That form is a target for the
literal itself, and there are addresses whose own text looks like it.
-/

namespace IpTools

lemma parseIpv6Addr_eq_some_iff {s : List Char} {ip : Ipv6Addr} :
    parseIpv6Addr s = some ip ↔ readIpv6Addr s = some (ip, []) := by
  unfold parseIpv6Addr
  constructor
  · intro h
    split at h
    · rename_i hread
      rw [hread, Option.some.inj h]
    · cases h
  · intro h
    rw [h]

/-- What starts as an IPv4 address is no IPv6 address. -/
lemma readIpv4Addr_of_readIpv6Addr {s : List Char} {r : Ipv6Addr × List Char}
    (h : readIpv6Addr s = some r) : readIpv4Addr s = none := by
  cases hv4 : readIpv4Addr s with
  | none => rfl
  | some v4 =>
    have hseparator : readSeparator ':' 0 readIpv4Addr s = some v4 := hv4
    have hgroups : readGroups 8 8 0 s = (([v4.1.octets[0].toNat * 256 + v4.1.octets[1].toNat,
        v4.1.octets[2].toNat * 256 + v4.1.octets[3].toNat], true), v4.2) := by
      rw [readGroups, if_pos (by decide), hseparator]
    unfold readIpv6Addr at h
    simp [hgroups] at h

lemma parseIpAddr_of_parseIpv6Addr {s : List Char} {ip : Ipv6Addr}
    (h : parseIpv6Addr s = some ip) : parseIpAddr s = some (.v6 ip) := by
  have hread := parseIpv6Addr_eq_some_iff.mp h
  unfold parseIpAddr readIpAddr
  rw [readIpv4Addr_of_readIpv6Addr hread, hread]
  rfl

lemma isIpv6Literal_of_parse {s : List Char} {ip : Ipv6Addr} (h : parseIpv6Addr s = some ip) :
    IsIpv6Literal s :=
  ⟨s, [], ip, by rw [List.append_nil], parseIpAddr_of_parseIpv6Addr h, .inl rfl,
    fun c hc => absurd hc List.not_mem_nil⟩

lemma isSome_ipv6PortHint_iff {addr port : List Char} (hport : ':' ∉ port) :
    (ipv6PortHint (addr ++ ':' :: port)).isSome = true ↔
      (∃ ip, parseIpv6Addr addr = some ip) ∧ port ≠ [] ∧ ∀ c ∈ port, c.isDigit = true := by
  have hempty : parseIpv6Addr [] = none := by decide
  unfold ipv6PortHint
  rw [rsplitOnce_append hport]
  dsimp only
  constructor
  · intro h
    split at h
    · cases h
    · rename_i hparts
      split at h
      · cases h
      · rename_i hliteral
        simp only [Bool.or_eq_true, List.isEmpty_iff, Bool.not_eq_true', not_or,
          Bool.not_eq_false, List.all_eq_true] at hparts
        rw [Option.isNone_iff_eq_none, ← ne_eq, Option.ne_none_iff_exists'] at hliteral
        exact ⟨hliteral, hparts.1.2, hparts.2⟩
  · rintro ⟨⟨ip, hip⟩, hne, hdigits⟩
    have haddr : addr ≠ [] := by
      rintro rfl
      rw [hempty] at hip
      cases hip
    rw [if_neg (by simp [haddr, hne]; exact hdigits), hip]
    rfl

lemma colon_notMem_group (g : Nat) : ':' ∉ Nat.toDigits 16 g := by
  intro hmem
  exact absurd (isSome_toDigit_of_mem _ hmem) (by decide)

/-- The last group follows a colon unless it is the first one. -/
lemma groupsText_concat (i g : Nat) (groups : List Nat) :
    groupsText i (groups ++ [g]) = groupsText i groups ++
      ((if 0 < i + groups.length then [':'] else []) ++ Nat.toDigits 16 g) := by
  induction groups generalizing i with
  | nil => simp [groupsText]
  | cons g' groups ih =>
    rw [List.cons_append, groupsText, groupsText, ih (i + 1), List.length_cons,
      if_pos (show 0 < i + 1 + groups.length by omega),
      if_pos (show 0 < i + (groups.length + 1) by omega)]
    simp only [List.append_assoc]

lemma groupsText_concat_of_ne_nil {groups : List Nat} (h : groups ≠ []) (g : Nat) :
    groupsText 0 (groups ++ [g]) = groupsText 0 groups ++ ':' :: Nat.toDigits 16 g := by
  have hlength := List.length_pos_of_ne_nil h
  rw [groupsText_concat, if_pos (by omega), List.singleton_append]

/-- Seven groups lack one. -/
lemma parseIpv6Addr_seven {groups : List Nat} (hlength : groups.length = 7)
    (hbound : ∀ g ∈ groups, g < 65536) : parseIpv6Addr (groupsText 0 groups) = none := by
  have hgroups := @readGroups_text 8 8 0 groups (by omega) hbound [] (Or.inl Closes.nil)
  rw [List.append_nil] at hgroups
  have hread : readIpv6Addr (groupsText 0 groups) = none := by
    unfold readIpv6Addr
    simp [hgroups, hlength, readGivenChar]
  unfold parseIpv6Addr
  rw [hread]

/-- One colon at the end stands for no zeros. -/
lemma parseIpv6Addr_colon {groups : List Nat} (hlength : groups.length < 8)
    (hbound : ∀ g ∈ groups, g < 65536) :
    parseIpv6Addr (groupsText 0 groups ++ [':']) = none := by
  have hgroups := @readGroups_text 8 8 0 groups (by omega) hbound _ .colon
  have hread : readIpv6Addr (groupsText 0 groups ++ [':']) = none := by
    unfold readIpv6Addr
    simp [hgroups, hlength.ne, readGivenChar]
  unfold parseIpv6Addr
  rw [hread]

lemma exists_parseIpv6Addr_compressed {head tail : List Nat}
    (hlength : head.length + tail.length ≤ 7) (hbound : ∀ g ∈ head ++ tail, g < 65536) :
    ∃ ip, parseIpv6Addr (groupsText 0 head ++ ':' :: ':' :: groupsText 0 tail) = some ip := by
  have hread := readIpv6Addr_compressed hlength hbound Closes.nil
  rw [List.append_nil] at hread
  exact ⟨_, parseIpv6Addr_eq_some_iff.mpr hread⟩

/-- The text with zeros left out has the literal before the last colon where two groups or more
follow the zeros. -/
lemma isSome_ipv6PortHint_compressed {head tail : List Nat}
    (hlength : head.length + tail.length ≤ 6) (hbound : ∀ g ∈ head ++ tail, g < 65536) :
    (ipv6PortHint (groupsText 0 head ++ ':' :: ':' :: groupsText 0 tail)).isSome = true ↔
      2 ≤ tail.length ∧ ∀ g ∈ tail.getLast?, ∀ c ∈ Nat.toDigits 16 g, c.isDigit = true := by
  obtain rfl | ⟨tail, g, rfl⟩ := List.eq_nil_or_concat' tail
  · -- nothing is behind the last colon
    have hsplit : groupsText 0 head ++ ':' :: ':' :: groupsText 0 [] =
        (groupsText 0 head ++ [':']) ++ ':' :: [] := by simp [groupsText]
    rw [hsplit, isSome_ipv6PortHint_iff List.not_mem_nil]
    exact iff_of_false (fun hhint => hhint.2.1 rfl) (fun htail => absurd htail.1 (by decide))
  · have hdigits : Nat.toDigits 16 g ≠ [] := Nat.toDigits_ne_nil
    rw [List.length_append, List.length_singleton] at hlength ⊢
    rw [List.getLast?_append_cons, List.getLast?_singleton]
    obtain rfl | hne := eq_or_ne tail []
    · -- one colon of the two is left before the last one
      have hsplit : groupsText 0 head ++ ':' :: ':' :: groupsText 0 ([] ++ [g]) =
          (groupsText 0 head ++ [':']) ++ ':' :: Nat.toDigits 16 g := by simp [groupsText]
      rw [hsplit, isSome_ipv6PortHint_iff (colon_notMem_group g)]
      refine iff_of_false (fun hhint => ?_) (fun htail => absurd htail.1 (by decide))
      obtain ⟨ip, hip⟩ := hhint.1
      rw [parseIpv6Addr_colon (by omega) (fun g' hg' => hbound g' (List.mem_append_left _ hg'))]
        at hip
      cases hip
    · have hpos := List.length_pos_of_ne_nil hne
      have hsplit : groupsText 0 head ++ ':' :: ':' :: groupsText 0 (tail ++ [g]) =
          (groupsText 0 head ++ ':' :: ':' :: groupsText 0 tail) ++ ':' :: Nat.toDigits 16 g := by
        rw [groupsText_concat_of_ne_nil hne, List.append_assoc, List.cons_append, List.cons_append]
      have hliteral := @exists_parseIpv6Addr_compressed head tail (by omega) (fun g' hg' =>
        hbound g' (by rw [← List.append_assoc]; exact List.mem_append_left _ hg'))
      rw [hsplit, isSome_ipv6PortHint_iff (colon_notMem_group g)]
      constructor
      · rintro ⟨-, -, hall⟩
        refine ⟨by omega, fun g' hg' => ?_⟩
        rw [Option.mem_def, Option.some.injEq] at hg'
        exact hg' ▸ hall
      · rintro ⟨-, hall⟩
        exact ⟨hliteral, hdigits, hall g rfl⟩

/-- Zeros are left out before two groups or more, the last of them of decimal digits alone. -/
structure Ipv6Addr.LooksLikePort (ip : Ipv6Addr) : Prop where
  notMapped : ip.toIpv4Mapped = none
  compressed : 1 < ip.zeroes.len
  follows : ip.zeroes.start + ip.zeroes.len ≤ 6
  digits : ∀ g ∈ ip.segments.getLast?, ∀ c ∈ Nat.toDigits 16 g, c.isDigit = true

lemma looksLikePort_mapped {ip : Ipv6Addr} {ipv4 : Ipv4Addr} (h : ip.toIpv4Mapped = some ipv4) :
    (ipv6PortHint (toString ip).toList).isSome = true ↔ ip.LooksLikePort := by
  obtain ⟨a, b, c, d, rfl⟩ := ipv4.exists_new
  have hname := (isName_ipv4 (.new a b c d)).2
  have hsplit : (toString ip).toList = (':' :: ':' :: Nat.toDigits 16 0xffff) ++
      ':' :: (toString (Ipv4Addr.new a b c d)).toList := toList_mapped h
  rw [hsplit, isSome_ipv6PortHint_iff (fun hmem => (hname _ hmem).1 (by simp))]
  refine iff_of_false (fun hhint => ?_) (fun hport => by rw [hport.notMapped] at h; cases h)
  have hdot : '.' ∈ (toString (Ipv4Addr.new a b c d)).toList := by
    rw [toList_ipv4]
    simp
  exact absurd (hhint.2.2 '.' hdot) (by decide)

lemma looksLikePort_full {ip : Ipv6Addr} (h : ip.toIpv4Mapped = none)
    (hlen : ¬1 < ip.zeroes.len) :
    (ipv6PortHint (toString ip).toList).isSome = true ↔ ip.LooksLikePort := by
  have hlength := length_segments ip
  obtain hnil | ⟨groups, g, hsegments⟩ := List.eq_nil_or_concat' ip.segments
  · rw [hnil] at hlength
    cases hlength
  · rw [hsegments, List.length_append, List.length_singleton] at hlength
    have hseven : groups.length = 7 := by omega
    have hne : groups ≠ [] := List.ne_nil_of_length_pos (by omega)
    have hbound : ∀ g' ∈ groups, g' < 65536 := fun g' hg' =>
      segment_lt (hsegments ▸ List.mem_append_left _ hg' : g' ∈ ip.segments)
    rw [toList_full h hlen, hsegments, groupsText_concat_of_ne_nil hne,
      isSome_ipv6PortHint_iff (colon_notMem_group g)]
    refine iff_of_false (fun hhint => ?_) (fun hport => hlen hport.compressed)
    obtain ⟨ip', hip'⟩ := hhint.1
    rw [parseIpv6Addr_seven hseven hbound] at hip'
    cases hip'

lemma looksLikePort_compressed {ip : Ipv6Addr} (h : ip.toIpv4Mapped = none)
    (hlen : 1 < ip.zeroes.len) :
    (ipv6PortHint (toString ip).toList).isSome = true ↔ ip.LooksLikePort := by
  have hlength := length_segments ip
  have hrun := (zeroRun_zeroes ip).1
  have hhead : (ip.segments.take ip.zeroes.start).length = ip.zeroes.start :=
    List.length_take_of_le (by omega)
  have htail : (ip.segments.drop (ip.zeroes.start + ip.zeroes.len)).length =
      8 - (ip.zeroes.start + ip.zeroes.len) := by rw [List.length_drop, hlength]
  have hbound : ∀ g ∈ ip.segments.take ip.zeroes.start ++
      ip.segments.drop (ip.zeroes.start + ip.zeroes.len), g < 65536 := by
    intro g hg
    rcases List.mem_append.mp hg with hg | hg
    · exact segment_lt (List.mem_of_mem_take hg)
    · exact segment_lt (List.mem_of_mem_drop hg)
  rw [toList_compressed h hlen,
    isSome_ipv6PortHint_compressed (by rw [hhead, htail]; omega) hbound, htail, List.getLast?_drop]
  constructor
  · rintro ⟨hfollows, hdigits⟩
    rw [if_neg (by omega)] at hdigits
    exact ⟨h, hlen, by omega, hdigits⟩
  · intro hport
    have hfollows := hport.follows
    refine ⟨by omega, ?_⟩
    rw [if_neg (by omega)]
    exact hport.digits

/-- A port behind the brackets of its address. -/
def bracketedForm (addr port : List Char) : List Char := ['['] ++ addr ++ [']'] ++ ':' :: port

/-- What a hint is about: the input is a host at the default port, and the form with brackets is
the literal before its last colon at the port behind it, if that is a port. -/
structure HintFor (input addr port : List Char) (text : String) : Prop where
  parts : input = addr ++ ':' :: port
  shown : bracketedForm addr port <:+: text.toList
  typed : ∀ d, Target.parse input d = .ok ⟨input, d⟩
  proposed : ∀ d target, Target.parse (bracketedForm addr port) d = .ok target ↔
    ∃ p, parseU16 port = some p ∧ target = ⟨['['] ++ addr ++ [']'], p⟩
  literal : ∃ ip, parseIpAddr addr = some (.v6 ip) ∧ ∀ resolvers : Resolvers,
    resolveForTcpServers resolvers (['['] ++ addr ++ [']']) = .ok [.v6 ip]

lemma isAddrChar_of_isDigit {c : Char} (h : c.isDigit = true) : isAddrChar c = true := by
  have hrange : '0' ≤ c ∧ c ≤ '9' := by
    have hnat : 48 ≤ c.toNat ∧ c.toNat ≤ 57 := Char.isDigit_iff_toNat.mp h
    exact ⟨hnat.1, hnat.2⟩
  refine isAddrChar_of_toDigit (Nat.le_refl 16) ?_
  have hnat : c.toNat ≤ 57 := hrange.2
  unfold toDigit
  rw [if_pos hrange]
  dsimp only
  rw [Option.filter_some, if_pos (decide_eq_true (by change c.toNat - 48 < 16; omega))]
  rfl

/-- A literal with digits behind one more colon has too many colons for a host and a port. -/
lemma parse_typed {addr port : List Char} {ip : Ipv6Addr} (haddr : parseIpAddr addr = some (.v6 ip))
    (hport : ∀ c ∈ port, c.isDigit = true) (d : UInt16) :
    Target.parse (addr ++ ':' :: port) d = .ok ⟨addr ++ ':' :: port, d⟩ := by
  obtain ⟨haddrChars, hcolons⟩ := parseIpAddr_v6 haddr
  have hchars : ∀ c ∈ addr ++ ':' :: port, isAddrChar c = true := by
    intro c hc
    rcases List.mem_append.mp hc with hc | hc
    · exact haddrChars c hc
    · rcases List.mem_cons.mp hc with rfl | hc
      · decide
      · exact isAddrChar_of_isDigit (hport c hc)
  have hscheme : ["http://", "https://"].findSome?
      (fun scheme => stripStart scheme.toList (addr ++ ':' :: port)) = none := by
    rw [List.findSome?_eq_none_iff]
    intro scheme hs
    rw [Option.eq_none_iff_forall_ne_some]
    intro rest hrest
    have hslash : '/' ∈ scheme.toList := by
      simp only [List.mem_cons, List.not_mem_nil, or_false] at hs
      rcases hs with rfl | rfl <;> decide
    have hmem : '/' ∈ addr ++ ':' :: port :=
      stripStart_eq_some hrest ▸ List.mem_append_left rest hslash
    exact absurd (hchars _ hmem) (by decide)
  have htrim : trim (addr ++ ':' :: port) = addr ++ ':' :: port :=
    trim_of_all (fun c hc => (isAddrChar_plain (hchars c hc)).2)
  have hform : PlainTarget (trim (addr ++ ':' :: port)) := by
    rw [htrim]
    exact ⟨hscheme, fun he => absurd (hchars _ (List.mem_of_head? he)) (by decide),
      fun hm => absurd (hchars _ (List.mem_of_mem_tail hm)) (by decide)⟩
  have hcount : (addr ++ ':' :: port).count ':' ≠ 1 := by
    rw [List.count_append, List.count_cons_self]
    omega
  rw [parse_of_plain d hform, htrim, parsePlain, if_neg hcount, if_neg (by simp)]

lemma parse_proposed {addr port : List Char} (haddr : IsIpv6Literal addr)
    (hport : ∀ c ∈ port, c.isDigit = true) (d : UInt16) (target : Target) :
    Target.parse (bracketedForm addr port) d = .ok target ↔
      ∃ p, parseU16 port = some p ∧ target = ⟨['['] ++ addr ++ [']'], p⟩ := by
  have hform : bracketedForm addr port = '[' :: (addr ++ ']' :: ':' :: port) := by
    simp [bracketedForm]
  have htrim : trim ('[' :: (addr ++ ']' :: ':' :: port)) =
      '[' :: (addr ++ ']' :: ':' :: port) := by
    refine trim_of_all (fun c hc => ?_)
    simp only [List.mem_cons, List.mem_append] at hc
    rcases hc with rfl | hc | rfl | rfl | hc
    · decide
    · exact (haddr.plain c hc).2
    · decide
    · decide
    · exact (isAddrChar_plain (isAddrChar_of_isDigit (hport c hc))).2
  have hne : addr ≠ [] := by
    rintro rfl
    exact absurd haddr.two_colons (by decide)
  rw [hform, parse_of_bracket d htrim,
    parseBracketed_append _ hne (fun hm => (haddr.plain _ hm).1 (by simp)),
    if_neg (List.cons_ne_nil _ _), stripStart_singleton, Option.getD_some, parsePort]
  cases parseU16 port with
  | none => exact iff_of_false (fun h => by cases h) (by simp)
  | some p =>
    constructor
    · rintro ⟨⟩
      exact ⟨p, rfl, rfl⟩
    · rintro ⟨q, hq, rfl⟩
      rw [← Option.some.inj hq]
      rfl

lemma infix_shown (before after : String) (addr port : List Char) :
    bracketedForm addr port <:+:
      (before ++ ("[" ++ String.ofList addr ++ "]:" ++ String.ofList port ++ after)).toList := by
  have hopen : "[".toList = ['['] := rfl
  have hclose : "]:".toList = [']', ':'] := rfl
  have hform : ("[" ++ String.ofList addr ++ "]:" ++ String.ofList port).toList =
      bracketedForm addr port := by simp [bracketedForm, hopen, hclose]
  rw [String.toList_append, String.toList_append, hform, ← List.append_assoc]
  exact List.infix_append _ _ _

lemma hintFor_of_parts {addr port : List Char} {ip : Ipv6Addr}
    (haddr : parseIpv6Addr addr = some ip) (hport : ∀ c ∈ port, c.isDigit = true) {text : String}
    (hshown : bracketedForm addr port <:+: text.toList) :
    HintFor (addr ++ ':' :: port) addr port text := by
  have hliteral := isIpv6Literal_of_parse haddr
  have hparse := parseIpAddr_of_parseIpv6Addr haddr
  refine ⟨rfl, hshown, parse_typed hparse hport, parse_proposed hliteral hport, ip, hparse, ?_⟩
  intro resolvers
  have hwire : trimEndMatches ']' (trimStartMatches '[' (['['] ++ addr ++ [']'])) = addr :=
    wireHost_of_bracketed (fun c hc => (hliteral.plain c hc).1)
  unfold resolveForTcpServers
  dsimp only
  rw [hwire, hparse]

/-- The hint is also shown for addresses that are meant as they are written: those whose last group
reads as a port behind a literal, and no others. What a hint proposes is read as that literal and
that port. -/
theorem ipv6_port_hint :
    (∀ ip : Ipv6Addr, (ipv6PortHint (toString ip).toList).isSome = true ↔ ip.LooksLikePort) ∧
    ∀ input text, ipv6PortHint input = some text → ∃ addr port, HintFor input addr port text := by
  constructor
  · intro ip
    cases hmapped : ip.toIpv4Mapped with
    | some ipv4 => exact looksLikePort_mapped hmapped
    | none =>
      by_cases hlen : 1 < ip.zeroes.len
      · exact looksLikePort_compressed hmapped hlen
      · exact looksLikePort_full hmapped hlen
  · intro input text h
    unfold ipv6PortHint at h
    split at h
    · cases h
    · rename_i addr port hsplit
      obtain ⟨rfl, -⟩ := rsplitOnce_eq_some_iff.mp hsplit
      split at h
      · cases h
      · rename_i hparts
        split at h
        · cases h
        · rename_i hliteral
          simp only [Bool.or_eq_true, Bool.not_eq_true', not_or, Bool.not_eq_false,
            List.all_eq_true] at hparts
          rw [Option.isNone_iff_eq_none, ← ne_eq, Option.ne_none_iff_exists'] at hliteral
          obtain ⟨ip, hip⟩ := hliteral
          refine ⟨addr, port, hintFor_of_parts hip hparts.2 ?_⟩
          have htext := Option.some.inj h
          dsimp only [toString] at htext
          rw [← htext]
          simpa only [String.append_assoc] using infix_shown _ _ addr port

/-- A slip with its hint, and an address that has one too. -/
theorem ipv6_port_hint_genuine :
    let genuine : Ipv6Addr := ⟨#v[0x20, 1, 0xd, 0xb8, 0, 0, 0, 0, 0, 0, 0, 0, 0, 1, 0, 2]⟩
    (ipv6PortHint (toString genuine).toList).isSome = true ∧
    ∃ addr port, HintFor "2001:db8::1:443".toList addr port
      ("hint: IPv6 literals with a port need brackets — did you mean [2001:db8::1]:443? " ++
        "(2001:db8::1:443 parsed as the address 2001:db8::1:443 on the default port)") := by
  intro genuine
  refine ⟨(ipv6_port_hint.1 genuine).mpr ⟨by decide +kernel, by decide +kernel, by decide +kernel,
    ?_⟩, ipv6_port_hint.2 _ _ (by decide +kernel)⟩
  have hlast : genuine.segments.getLast? = some 2 := by decide +kernel
  intro g hg
  rw [hlast] at hg
  rw [← Option.some.inj hg]
  exact List.all_eq_true.mp rfl

end IpTools

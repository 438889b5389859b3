import IpTools.Proofs.TargetParsing
import IpTools.Wire.Authority

/-!
# Authorities of a request

The `Host` header brackets every host with a colon, the URI authority only an IPv6 literal. Target
parsing takes back what the `Host` header is written from.
-/

namespace IpTools

variable {h : List Char} {p : UInt16}

/-- The two authorities of a request are the same exactly when the host names its port, has no
colon, or is an IPv6 literal. -/
theorem authority_agrees_iff (h : List Char) (p : UInt16) :
    wireAuthority h p true = uriAuthorityAt h p ↔
      authorityHasExplicitPort h = true ∨ ':' ∉ wireHost h ∨
        ∃ ip, parseIpAddr (wireHost h) = some (.v6 ip) := by
  by_cases hport : authorityHasExplicitPort h = true
  · simp [wireAuthority, uriAuthorityAt, hport]
  · have huri : ∀ ip, parseIpAddr (wireHost h) = some (.v6 ip) →
        uriAuthority h = ['['] ++ wireHost h ++ [']'] := by
      intro ip hip
      simp [uriAuthority, hport, hip]
    have hbare : (∀ ip, parseIpAddr (wireHost h) ≠ some (.v6 ip)) →
        uriAuthority h = wireHost h := by
      intro hne
      unfold uriAuthority
      rw [if_neg hport]
      dsimp only
      split
      · rename_i ip hip
        exact absurd hip (hne ip)
      · rfl
    unfold wireAuthority uriAuthorityAt
    rw [if_neg hport, if_neg hport]
    by_cases hcolon : ':' ∈ wireHost h
    · by_cases hv6 : ∃ ip, parseIpAddr (wireHost h) = some (.v6 ip)
      · obtain ⟨ip, hip⟩ := hv6
        simp [hcolon, huri ip hip, hip]
      · -- bracketed on one side only, so that the lengths differ
        have hne := hbare (fun ip hip => hv6 ⟨ip, hip⟩)
        simp only [hport, hcolon, hv6, hne, not_true_eq_false, if_true, iff_false, or_false,
          Bool.false_eq_true]
        intro heq
        have hlen := congrArg List.length heq
        split at hlen <;> simp at hlen <;> omega
    · have hv6 : ∀ ip, parseIpAddr (wireHost h) ≠ some (.v6 ip) := by
        intro ip hip
        have hcount := (parseIpAddr_v6 hip).2
        rw [List.count_eq_zero_of_not_mem hcolon] at hcount
        omega
      simp [hcolon, hbare hv6]

/-- An address with a zone has colons and is no literal of the standard library. -/
theorem zoned_host_disagrees :
    wireAuthority "fe80::1%eth0".toList 443 true ≠ uriAuthorityAt "fe80::1%eth0".toList 443 := by
  decide +kernel

/-- An IPv6 literal, with or without a zone. -/
def IsIpv6Literal (t : List Char) : Prop :=
  ∃ addr zone ip, t = addr ++ zone ∧ parseIpAddr addr = some (.v6 ip) ∧
    (zone = [] ∨ zone.head? = some '%') ∧
    ∀ c ∈ zone, c ∉ ['[', ']'] ∧ isWhitespace c = false

def defaultPort (tls : Bool) : UInt16 := if tls then httpsDefaultPort else httpDefaultPort

lemma toNat_of_toDigit {c : Char} (hc : (toDigit 16 c).isSome = true) :
    48 ≤ c.toNat ∧ c.toNat ≤ 57 ∨ 97 ≤ c.toNat ∧ c.toNat ≤ 102 ∨
      65 ≤ c.toNat ∧ c.toNat ≤ 70 := by
  have hle : ∀ a b : Char, a ≤ b → a.toNat ≤ b.toNat := fun a b hab => hab
  unfold toDigit at hc
  by_cases h9 : '0' ≤ c ∧ c ≤ '9'
  · exact Or.inl ⟨hle _ _ h9.1, hle _ _ h9.2⟩
  · by_cases hf : 'a' ≤ c ∧ c ≤ 'f'
    · exact Or.inr (Or.inl ⟨hle _ _ hf.1, hle _ _ hf.2⟩)
    · by_cases hF : 'A' ≤ c ∧ c ≤ 'F'
      · exact Or.inr (Or.inr ⟨hle _ _ hF.1, hle _ _ hF.2⟩)
      · simp [h9, hf, hF] at hc

lemma isAddrChar_plain {c : Char} (hc : isAddrChar c = true) :
    c ∉ ['[', ']'] ∧ isWhitespace c = false := by
  have hrange : 46 ≤ c.toNat ∧ c.toNat ≤ 58 ∨ 97 ≤ c.toNat ∧ c.toNat ≤ 102 ∨
      65 ≤ c.toNat ∧ c.toNat ≤ 70 := by
    simp only [isAddrChar, Bool.or_eq_true, decide_eq_true_eq] at hc
    rcases hc with (hd | rfl) | rfl
    · have := toNat_of_toDigit hd
      omega
    · exact Or.inl (by decide)
    · exact Or.inl (by decide)
  constructor
  · rintro hmem
    simp only [List.mem_cons, List.not_mem_nil, or_false] at hmem
    rcases hmem with rfl | rfl <;> revert hrange <;> decide
  · simp only [isWhitespace, Bool.or_eq_false_iff, Bool.and_eq_false_iff, decide_eq_false_iff_not]
    omega

lemma IsIpv6Literal.plain {t : List Char} (ht : IsIpv6Literal t) :
    ∀ c ∈ t, c ∉ ['[', ']'] ∧ isWhitespace c = false := by
  obtain ⟨addr, zone, ip, rfl, hip, -, hzone⟩ := ht
  intro c hc
  rcases List.mem_append.mp hc with hc | hc
  · exact isAddrChar_plain ((parseIpAddr_v6 hip).1 c hc)
  · exact hzone c hc

lemma IsIpv6Literal.two_colons {t : List Char} (ht : IsIpv6Literal t) : 2 ≤ t.count ':' := by
  obtain ⟨addr, zone, ip, rfl, hip, -⟩ := ht
  have hcount := (parseIpAddr_v6 hip).2
  rw [List.count_append]
  omega

lemma portSuffix_plain (p : UInt16) :
    ∀ c ∈ portSuffix p, c ∉ ['[', ']', '@'] ∧ isWhitespace c = false := by
  intro c hc
  rcases List.mem_cons.mp hc with rfl | hc
  · decide
  · have hd := Char.isDigit_iff_toNat.mp (isDigit_of_mem_toDigits hc)
    have hrange : 48 ≤ c.toNat ∧ c.toNat ≤ 57 := hd
    constructor
    · intro hmem
      simp only [List.mem_cons, List.not_mem_nil, or_false] at hmem
      rcases hmem with rfl | rfl | rfl <;> revert hrange <;> decide
    · simp only [isWhitespace, Bool.or_eq_false_iff, Bool.and_eq_false_iff,
        decide_eq_false_iff_not]
      omega

lemma colon_notMem_toDigits (n : Nat) : ':' ∉ Nat.toDigits 10 n := by
  intro hm
  exact absurd (isDigit_of_mem_toDigits hm) (by decide)

lemma wireHost_of_plain {t : List Char} (ht : ∀ c ∈ t, c ∉ ['[', ']']) : wireHost t = t := by
  have hl : ∀ c ∈ t, decide (c = '[') = false :=
    fun c hc => decide_eq_false (fun he => ht c hc (by simp [he]))
  have hr : ∀ c ∈ t, decide (c = ']') = false :=
    fun c hc => decide_eq_false (fun he => ht c hc (by simp [he]))
  unfold wireHost trimStartMatches trimEndMatches
  rw [dropWhile_of_all hl, dropWhileEnd_of_all hr]

lemma wireHost_of_bracketed {t : List Char} (ht : ∀ c ∈ t, c ∉ ['[', ']']) :
    wireHost (['['] ++ t ++ [']']) = t := by
  have hl : ∀ c ∈ t ++ [']'], decide (c = '[') = false := by
    intro c hc
    rcases List.mem_append.mp hc with hc | hc
    · exact decide_eq_false (fun he => ht c hc (by simp [he]))
    · rw [List.mem_singleton] at hc
      rw [hc]
      decide
  have hr : ∀ c ∈ t.reverse, decide (c = ']') = false :=
    fun c hc => decide_eq_false (fun he => ht c (List.mem_reverse.mp hc) (by simp [he]))
  unfold wireHost trimStartMatches trimEndMatches dropWhileEnd
  rw [List.append_assoc, List.singleton_append, List.dropWhile_cons_of_pos (by decide),
    dropWhile_of_all hl, List.reverse_append, List.reverse_singleton, List.singleton_append,
    List.dropWhile_cons_of_pos (by decide), dropWhile_of_all hr, List.reverse_reverse]

lemma parse_bracketed {t : List Char} (ht : IsIpv6Literal t) (d : UInt16) :
    Target.parse (['['] ++ t ++ [']']) d = .ok ⟨['['] ++ t ++ [']'], d⟩ := by
  have hplain : ∀ c ∈ '[' :: (t ++ [']']), isWhitespace c = false := by
    intro c hc
    simp only [List.mem_cons, List.mem_append, List.not_mem_nil, or_false] at hc
    rcases hc with rfl | hc | rfl
    · decide
    · exact (ht.plain c hc).2
    · decide
  have hne : t ≠ [] := by
    rintro rfl
    exact absurd ht.two_colons (by decide)
  have hsplit : splitOnce ']' (t ++ [']']) = some (t, []) :=
    splitOnce_append (fun hm => (ht.plain _ hm).1 (by simp))
  have hparse := parse_of_bracket d (trim_of_all hplain)
  have hinput : ['['] ++ t ++ [']'] = '[' :: (t ++ [']']) := by simp
  rw [hinput, hparse, parseBracketed, hsplit]
  obtain ⟨c, t', rfl⟩ := List.exists_cons_of_ne_nil hne
  rfl

lemma parse_bracketed_port {t : List Char} (ht : IsIpv6Literal t) (p d : UInt16) :
    Target.parse (['['] ++ t ++ [']'] ++ portSuffix p) d = .ok ⟨['['] ++ t ++ [']'], p⟩ := by
  have hplain : ∀ c ∈ '[' :: (t ++ ']' :: portSuffix p), isWhitespace c = false := by
    intro c hc
    simp only [List.mem_cons, List.mem_append] at hc
    rcases hc with rfl | hc | rfl | hc
    · decide
    · exact (ht.plain c hc).2
    · decide
    · exact (portSuffix_plain p c hc).2
  have hne : t ≠ [] := by
    rintro rfl
    exact absurd ht.two_colons (by decide)
  have hsplit : splitOnce ']' (t ++ ']' :: portSuffix p) = some (t, portSuffix p) :=
    splitOnce_append (fun hm => (ht.plain _ hm).1 (by simp))
  have hport : parsePort ((stripStart [':'] (portSuffix p)).getD [])
      ('[' :: (t ++ ']' :: portSuffix p)) = .ok p := by
    unfold portSuffix
    rw [stripStart_singleton, Option.getD_some, parsePort, parseU16_toDigits]
  have hparse := parse_of_bracket d (trim_of_all hplain)
  have hinput : ['['] ++ t ++ [']'] ++ portSuffix p = '[' :: (t ++ ']' :: portSuffix p) := by simp
  rw [hinput, hparse, parseBracketed, hsplit]
  obtain ⟨c, t', rfl⟩ := List.exists_cons_of_ne_nil hne
  unfold portSuffix at hport ⊢
  dsimp only
  rw [hport]
  rfl

lemma authorityHasExplicitPort_of_name (hh : IsName h) :
    authorityHasExplicitPort h = false := by
  have hcolon : ':' ∉ h := fun hm => (hh.2 _ hm).1 (by simp)
  have hhead : h.head? ≠ some '[' :=
    fun he => (hh.2 _ (List.mem_of_head? he)).1 (by simp)
  unfold authorityHasExplicitPort
  simp [trim_of_all (fun c hc => (hh.2 c hc).2), hhead, rsplitOnce_of_notMem hcolon]

/-- The bare literal has a colon before its last one, the bracketed one ends at its bracket. -/
lemma authorityHasExplicitPort_of_literal {t : List Char} (ht : IsIpv6Literal t)
    (hform : h = t ∨ h = ['['] ++ t ++ [']']) : authorityHasExplicitPort h = false := by
  rcases hform with rfl | rfl
  · have hhead : h.head? ≠ some '[' :=
      fun he => (ht.plain _ (List.mem_of_head? he)).1 (by simp)
    have hmem : ':' ∈ h := List.count_pos_iff.mp (by have := ht.two_colons; omega)
    obtain ⟨a, b, hsplit, hb, hab⟩ := rsplitOnce_of_mem hmem
    have hcount : h.count ':' = a.count ':' + 1 := by
      rw [hab, List.count_append, List.count_cons_self, List.count_eq_zero_of_not_mem hb]
    have ha : ':' ∈ a := List.count_pos_iff.mp (by have := ht.two_colons; omega)
    unfold authorityHasExplicitPort
    simp [trim_of_all (fun c hc => (ht.plain c hc).2), hhead, hsplit, ha]
  · have hplain : ∀ c ∈ ['['] ++ t ++ [']'], isWhitespace c = false := by
      intro c hc
      simp only [List.mem_append, List.mem_singleton] at hc
      rcases hc with (rfl | hc) | rfl
      · decide
      · exact (ht.plain c hc).2
      · decide
    have hsplit : splitOnce ']' (['['] ++ t ++ [']']) = some (['['] ++ t, []) := by
      refine splitOnce_append (fun hm => ?_)
      rcases List.mem_append.mp hm with hm | hm
      · exact absurd hm (by decide)
      · exact (ht.plain _ hm).1 (by simp)
    unfold authorityHasExplicitPort
    rw [trim_of_all hplain]
    dsimp only
    rw [hsplit]
    rfl

lemma parse_name (hh : IsName h) (d : UInt16) : Target.parse h d = .ok ⟨h, d⟩ := by
  have hplain : ∀ c ∈ h, isWhitespace c = false := fun c hc => (hh.2 c hc).2
  have hnotMem : ∀ c ∈ [':', '[', ']', '@'], c ∉ h := fun c hc hm => (hh.2 c hm).1 hc
  have hscheme : ["http://", "https://"].findSome? (fun scheme => stripStart scheme.toList h) =
      none := by
    rw [List.findSome?_eq_none_iff]
    intro scheme hs
    rw [Option.eq_none_iff_forall_ne_some]
    intro rest hrest
    have hcolon : ':' ∈ scheme.toList := by
      simp only [List.mem_cons, List.not_mem_nil, or_false] at hs
      rcases hs with rfl | rfl <;> decide
    exact hnotMem ':' (by simp) (stripStart_eq_some hrest ▸ List.mem_append_left rest hcolon)
  have hhead : h.head? ≠ some '[' :=
    fun he => hnotMem '[' (by simp) (List.mem_of_head? he)
  have hform : PlainTarget (trim h) := by
    rw [trim_of_all hplain]
    exact ⟨hscheme, hhead, fun hm => hnotMem '@' (by simp) (List.mem_of_mem_tail hm)⟩
  rw [parse_of_plain d hform, trim_of_all hplain, parsePlain,
    List.count_eq_zero_of_not_mem (hnotMem ':' (by simp)), if_neg (by decide), if_neg hh.1]

lemma parse_name_port (hh : IsName h) (p d : UInt16) :
    Target.parse (h ++ portSuffix p) d = .ok ⟨h, p⟩ := by
  have hplain : ∀ c ∈ h ++ portSuffix p, isWhitespace c = false := by
    intro c hc
    rcases List.mem_append.mp hc with hc | hc
    · exact (hh.2 c hc).2
    · exact (portSuffix_plain p c hc).2
  have hcolon : ':' ∉ h := fun hm => (hh.2 _ hm).1 (by simp)
  have hcount : (h ++ portSuffix p).count ':' = 1 := by
    unfold portSuffix
    rw [List.count_append, List.count_cons_self, List.count_eq_zero_of_not_mem hcolon,
      List.count_eq_zero_of_not_mem (colon_notMem_toDigits _)]
  have hsplit : rsplitOnce ':' (h ++ portSuffix p) = some (h, Nat.toDigits 10 p.toNat) :=
    rsplitOnce_append (colon_notMem_toDigits _)
  have hall : (Nat.toDigits 10 p.toNat).all Char.isDigit = true :=
    List.all_eq_true.mpr (fun c hc => isDigit_of_mem_toDigits hc)
  have hport : parsePort (Nat.toDigits 10 p.toNat) (h ++ portSuffix p) = .ok p := by
    rw [parsePort, parseU16_toDigits]
  have hhostPort : parseHostPort (h ++ portSuffix p) = .ok ⟨h, p⟩ := by
    simp only [parseHostPort, hsplit, hh.1, hall, ne_eq, not_false_eq_true, and_self, if_true,
      hport]
    rfl
  have hform : PlainTarget (trim (h ++ portSuffix p)) := by
    rw [trim_of_all hplain]
    exact plainTarget_hostPort hh (fun c hc => isDigit_of_mem_toDigits hc)
  rw [parse_of_plain d hform, trim_of_all hplain, parsePlain, if_pos hcount, hhostPort]

/-- Parsing an authority gives back the host and the port it was written from, an IPv6 literal in
brackets. -/
theorem parse_wireAuthority (p : UInt16) (hp : p ≠ 0) (tls : Bool) :
    (∀ h, IsName h →
      Target.parse (wireAuthority h p tls) (defaultPort tls) = .ok ⟨h, p⟩) ∧
    ∀ t, IsIpv6Literal t → ∀ h, h = t ∨ h = ['['] ++ t ++ [']'] →
      Target.parse (wireAuthority h p tls) (defaultPort tls) = .ok ⟨['['] ++ t ++ [']'], p⟩ := by
  constructor
  · intro h hh
    have hbare : wireHost h = h :=
      wireHost_of_plain (fun c hc hm => (hh.2 c hc).1 (by revert hm; simp; tauto))
    have hcolon : ':' ∉ h := fun hm => (hh.2 _ hm).1 (by simp)
    simp only [wireAuthority, authorityHasExplicitPort_of_name hh, hbare, hcolon, ne_eq, hp,
      not_false_eq_true, true_and, if_false, Bool.false_eq_true]
    by_cases hd : p = defaultPort tls
    · have hd' : p = if tls = true then httpsDefaultPort else httpDefaultPort := hd
      rw [if_neg (not_not_intro hd'), ← hd]
      exact parse_name hh p
    · have hd' : ¬p = if tls = true then httpsDefaultPort else httpDefaultPort := hd
      rw [if_pos hd']
      exact parse_name_port hh p (defaultPort tls)
  · intro t ht h hform
    have hplain : ∀ c ∈ t, c ∉ ['[', ']'] := fun c hc => (ht.plain c hc).1
    have hbare : wireHost h = t := by
      rcases hform with rfl | rfl
      · exact wireHost_of_plain hplain
      · exact wireHost_of_bracketed hplain
    have hcolon : ':' ∈ t := List.count_pos_iff.mp (by have := ht.two_colons; omega)
    simp only [wireAuthority, authorityHasExplicitPort_of_literal ht hform, hbare, hcolon, ne_eq,
      hp, not_false_eq_true, true_and, if_false, if_true, Bool.false_eq_true]
    by_cases hd : p = defaultPort tls
    · have hd' : p = if tls = true then httpsDefaultPort else httpDefaultPort := hd
      rw [if_neg (not_not_intro hd'), ← hd]
      exact parse_bracketed ht p
    · have hd' : ¬p = if tls = true then httpsDefaultPort else httpDefaultPort := hd
      rw [if_pos hd']
      exact parse_bracketed_port ht p (defaultPort tls)

theorem parse_wireAuthority_8443 :
    Target.parse (wireAuthority "example.com".toList 8443 true) 443 =
      .ok ⟨"example.com".toList, 8443⟩ ∧
    Target.parse (wireAuthority "2001:db8::1".toList 8443 true) 443 =
      .ok ⟨"[2001:db8::1]".toList, 8443⟩ := by
  obtain ⟨name, literal⟩ := parse_wireAuthority 8443 (by decide) true
  have hname : IsName "example.com".toList := by
    refine ⟨by decide, ?_⟩
    simp [isWhitespace]
  have hliteral : IsIpv6Literal "2001:db8::1".toList := by
    refine ⟨"2001:db8::1".toList, [],
      ⟨#v[0x20, 0x01, 0x0d, 0xb8, 0, 0, 0, 0, 0, 0, 0, 0, 0, 0, 0, 1]⟩, rfl, ?_, .inl rfl, ?_⟩
    · decide +kernel
    · simp
  exact ⟨name _ hname, literal _ hliteral _ (.inl rfl)⟩

end IpTools

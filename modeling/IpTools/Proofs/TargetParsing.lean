import IpTools.Proofs.Text
import IpTools.Wire.Target

/-!
# The forms of a target

A target is in brackets, or a host that may be followed by a port. The two forms look at the text
of a port in their own ways, and only the whole input is trimmed.
-/

namespace IpTools

/-- A text that is no URL, has no bracket at its start and names no user. -/
structure PlainTarget (s : List Char) : Prop where
  noScheme : ["http://", "https://"].findSome? (fun scheme => stripStart scheme.toList s) = none
  noBracket : s.head? ≠ some '['
  noUser : '@' ∉ s.tail

section Forms

variable {input rest : List Char} {d : UInt16} {t : Target}

lemma noScheme_iff {s : List Char} :
    ["http://", "https://"].findSome? (fun scheme => stripStart scheme.toList s) = none ↔
      stripStart "http://".toList s = none ∧ stripStart "https://".toList s = none := by
  rw [List.findSome?_eq_none_iff, List.forall_mem_cons, List.forall_mem_singleton]

/-- A text that starts with a bracket is no URL. -/
lemma parse_of_bracket (d : UInt16) (h : trim input = '[' :: rest) :
    Target.parse input d = parseBracketed ('[' :: rest) rest d := by
  have hscheme : ["http://", "https://"].findSome?
      (fun scheme => stripStart scheme.toList ('[' :: rest)) = none := noScheme_iff.mpr ⟨rfl, rfl⟩
  unfold Target.parse
  simp only [h, hscheme, stripStart_singleton]

/-- The only `@` of a text that names no user is its first character. -/
lemma rsplitOnce_of_noUser {s : List Char} (h : '@' ∉ s.tail) :
    rsplitOnce '@' s = none ∨ ∃ host, rsplitOnce '@' s = some ([], host) := by
  cases s with
  | nil => exact .inl rfl
  | cons c s =>
    by_cases hc : c = '@'
    · subst hc
      exact .inr ⟨s, rsplitOnce_append (a := []) h⟩
    · left
      apply rsplitOnce_of_notMem
      simp only [List.mem_cons, not_or]
      exact ⟨fun he => hc he.symm, h⟩

/-- A host with or without a port. -/
def parsePlain (s : List Char) (d : UInt16) : Except InvalidTarget Target :=
  if s.count ':' = 1 then parseHostPort s
  else if s = [] then .error (invalid s "empty target")
  else .ok ⟨s, d⟩

lemma parse_of_plain (d : UInt16) (h : PlainTarget (trim input)) :
    Target.parse input d = parsePlain (trim input) d := by
  unfold Target.parse parsePlain
  simp only [h.noScheme, stripStart_of_head_ne h.noBracket, trim_of_trimmed (trimmed_trim input),
    List.isEmpty_iff]
  rcases rsplitOnce_of_noUser h.noUser with hsplit | ⟨host, hsplit⟩ <;> rw [hsplit]

/-- What is accepted has one of the two forms. -/
lemma form_of_parse (h : Target.parse input d = .ok t) :
    (∃ rest, trim input = '[' :: rest) ∨ PlainTarget (trim input) := by
  unfold Target.parse at h
  dsimp only at h
  split at h
  · cases h
  · rename_i hscheme
    split at h
    · rename_i rest hbracket
      exact .inl ⟨rest, stripStart_eq_some hbracket⟩
    · rename_i hbracket
      split at h
      · cases h
      · rename_i huser
        refine .inr ⟨hscheme, fun hhead => ?_, fun hmem => ?_⟩
        · obtain ⟨rest, hrest⟩ := List.head?_eq_some_iff.mp hhead
          rw [hrest, stripStart_singleton] at hbracket
          cases hbracket
        · obtain ⟨user, host, hsplit, hhost, hs⟩ := rsplitOnce_of_mem (List.mem_of_mem_tail hmem)
          cases user with
          | nil =>
            rw [hs] at hmem
            exact hhost hmem
          | cons c user => exact huser c user host hsplit

/-- The address in brackets and what follows its bracket. -/
lemma parseBracketed_append {addr : List Char} (tail : List Char) (hne : addr ≠ [])
    (haddr : ']' ∉ addr) :
    parseBracketed input (addr ++ ']' :: tail) d =
      if tail = [] then .ok ⟨['['] ++ addr ++ [']'], d⟩
      else (parsePort ((stripStart [':'] tail).getD []) input).map
        (fun port => ⟨['['] ++ addr ++ [']'], port⟩) := by
  unfold parseBracketed
  rw [splitOnce_append haddr]
  obtain ⟨c, addr, rfl⟩ := List.exists_cons_of_ne_nil hne
  cases tail with
  | nil => rfl
  | cons e tail =>
    rw [if_neg (List.cons_ne_nil e tail)]
    dsimp only
    cases parsePort ((stripStart [':'] (e :: tail)).getD []) input <;> rfl

lemma host_of_parseBracketed (h : parseBracketed input rest d = .ok t) :
    ∃ addr, t.host = ['['] ++ addr ++ [']'] ∧ addr ≠ [] ∧ ']' ∉ addr := by
  cases hsplit : splitOnce ']' rest with
  | none =>
    unfold parseBracketed at h
    rw [hsplit] at h
    cases h
  | some parts =>
    obtain ⟨addr, tail⟩ := parts
    obtain ⟨rfl, haddr⟩ := splitOnce_eq_some_iff.mp hsplit
    have hne : addr ≠ [] := by
      rintro rfl
      unfold parseBracketed at h
      rw [hsplit] at h
      cases h
    refine ⟨addr, ?_, hne, haddr⟩
    rw [parseBracketed_append tail hne haddr] at h
    split at h
    · cases h
      rfl
    · cases hport : parsePort ((stripStart [':'] tail).getD []) input with
      | error e =>
        rw [hport] at h
        cases h
      | ok port =>
        rw [hport] at h
        cases h
        rfl

lemma parsePort_ok_iff {s : List Char} {port : UInt16} :
    parsePort s input = .ok port ↔ parseU16 s = some port := by
  unfold parsePort
  cases parseU16 s <;> simp

lemma parseHostPort_ok_iff :
    parseHostPort input = .ok t ↔ ∃ host text port, input = host ++ ':' :: text ∧ ':' ∉ text ∧
      host ≠ [] ∧ text.all Char.isDigit = true ∧ parseU16 text = some port ∧ t = ⟨host, port⟩ := by
  unfold parseHostPort
  constructor
  · intro h
    split at h
    · rename_i host text hsplit
      obtain ⟨hs, htext⟩ := rsplitOnce_eq_some_iff.mp hsplit
      split at h
      · rename_i hform
        cases hport : parsePort text input with
        | error e =>
          rw [hport] at h
          cases h
        | ok port =>
          rw [hport] at h
          cases h
          exact ⟨host, text, port, hs, htext, hform.1, hform.2, parsePort_ok_iff.mp hport, rfl⟩
      · cases h
    · cases h
  · rintro ⟨host, text, port, hs, htext, hhost, hdigits, hport, rfl⟩
    have hok : parsePort text input = .ok port := parsePort_ok_iff.mpr hport
    rw [rsplitOnce_eq_some_iff.mpr ⟨hs, htext⟩]
    dsimp only
    rw [if_pos ⟨hhost, hdigits⟩, hok]
    rfl

end Forms

/-- Whether a target is stored in the form that parsing it again gives. -/
structure Target.Normal (t : Target) : Prop where
  host_ne_nil : t.host ≠ []
  trimmed : Trimmed t.host
  parse_again : Target.parse t.host t.port = .ok t

/-- Whether the form `host:port` has whitespace before its only colon. -/
def SpaceBeforePort (s : List Char) : Prop :=
  s.head? ≠ some '[' ∧ ∃ host c text, s = host ++ c :: ':' :: text ∧ isWhitespace c = true ∧
    ':' ∉ host ∧ ':' ∉ text

lemma normal_of_bracket {addr : List Char} (port : UInt16) (hne : addr ≠ []) (haddr : ']' ∉ addr) :
    Target.Normal ⟨['['] ++ addr ++ [']'], port⟩ := by
  have htrimmed : Trimmed (['['] ++ addr ++ [']']) := by
    constructor
    · rintro c ⟨⟩
      decide
    · intro c hc
      rw [List.getLast?_concat] at hc
      cases hc
      decide
  have htrim : trim (['['] ++ addr ++ [']']) = '[' :: (addr ++ [']']) := trim_of_trimmed htrimmed
  exact ⟨List.cons_ne_nil _ _, htrimmed,
    (parse_of_bracket port htrim).trans (parseBracketed_append [] hne haddr)⟩

/-- A host without a colon is no URL. -/
lemma PlainTarget.host {host rest : List Char} (h : PlainTarget (host ++ ':' :: rest))
    (hne : host ≠ []) (hcolon : ':' ∉ host) : PlainTarget host := by
  obtain ⟨c, host, rfl⟩ := List.exists_cons_of_ne_nil hne
  refine ⟨?_, h.noBracket, fun hm => h.noUser (List.mem_append_left _ hm)⟩
  rw [noScheme_iff]
  constructor
  · exact stripStart_of_notMem (by decide) hcolon
  · exact stripStart_of_notMem (by decide) hcolon

/-- The host of an input is stored as it stands, so that its whitespace is trimmed at the ends of
the input alone. -/
lemma normal_hostPort_iff {host text : List Char} {port : UInt16}
    (hform : PlainTarget (host ++ ':' :: text)) (htrimmed : Trimmed (host ++ ':' :: text))
    (hne : host ≠ []) (hhost : ':' ∉ host) (htext : ':' ∉ text) :
    Target.Normal ⟨host, port⟩ ↔ ¬SpaceBeforePort (host ++ ':' :: text) := by
  have hspace : SpaceBeforePort (host ++ ':' :: text) ↔
      ∃ c ∈ host.getLast?, isWhitespace c = true := by
    constructor
    · rintro ⟨-, host', c, text', hs, hc, -, htext'⟩
      have hsplit := rsplitOnce_append (a := host) htext
      have hwhole : host ++ ':' :: text = (host' ++ [c]) ++ ':' :: text' := by
        rw [hs, List.append_assoc, List.singleton_append]
      rw [hwhole, rsplitOnce_append htext', Option.some.injEq, Prod.mk.injEq] at hsplit
      rw [← hsplit.1, List.getLast?_concat]
      exact ⟨c, rfl, hc⟩
    · rintro ⟨c, hc, hwhite⟩
      obtain ⟨front, rfl⟩ := List.getLast?_eq_some_iff.mp hc
      refine ⟨hform.noBracket, front, c, text, by simp, hwhite, ?_, htext⟩
      exact fun hm => hhost (List.mem_append_left _ hm)
  constructor
  · rintro hnormal hpadded
    obtain ⟨c, hc, hwhite⟩ := hspace.mp hpadded
    exact absurd (hnormal.trimmed.ending c hc) (by simp [hwhite])
  · intro hclean
    have htrim : Trimmed host := by
      refine ⟨?_, ?_⟩
      · obtain ⟨c, host, rfl⟩ := List.exists_cons_of_ne_nil hne
        exact htrimmed.start
      · intro c hc
        exact Bool.eq_false_iff.mpr (fun hwhite => hclean (hspace.mpr ⟨c, hc, hwhite⟩))
    have hplain : PlainTarget (trim host) := by
      rw [trim_of_trimmed htrim]
      exact hform.host hne hhost
    refine ⟨hne, htrim, ?_⟩
    dsimp only
    rw [parse_of_plain port hplain, trim_of_trimmed htrim, parsePlain,
      List.count_eq_zero_of_not_mem hhost, if_neg (by decide), if_neg hne]

/-- A target is stored in a form that parses to itself, but for the whitespace that the form
`host:port` may have before its colon. -/
theorem target_normal_iff {input : List Char} {d : UInt16} {t : Target}
    (h : Target.parse input d = .ok t) : t.Normal ↔ ¬SpaceBeforePort (trim input) := by
  rcases form_of_parse h with ⟨rest, hbracket⟩ | hplain
  · rw [parse_of_bracket d hbracket] at h
    obtain ⟨addr, hhost, hne, haddr⟩ := host_of_parseBracketed h
    have ht : t = ⟨['['] ++ addr ++ [']'], t.port⟩ := by rw [← hhost]
    rw [ht]
    apply iff_of_true (normal_of_bracket t.port hne haddr)
    intro hspace
    rw [hbracket] at hspace
    exact hspace.1 rfl
  · rw [parse_of_plain d hplain, parsePlain] at h
    by_cases hcount : (trim input).count ':' = 1
    · rw [if_pos hcount] at h
      obtain ⟨host, text, port, hs, htext, hne, -, -, rfl⟩ := parseHostPort_ok_iff.mp h
      have hhost : ':' ∉ host := by
        rw [hs, List.count_append, List.count_cons_self] at hcount
        exact List.count_eq_zero.mp (by omega)
      have htrimmed := trimmed_trim input
      rw [hs] at hplain htrimmed ⊢
      exact normal_hostPort_iff hplain htrimmed hne hhost htext
    · rw [if_neg hcount] at h
      by_cases hempty : trim input = []
      · rw [if_pos hempty] at h
        cases h
      · rw [if_neg hempty] at h
        cases h
        have htrim := trim_of_trimmed (trimmed_trim input)
        have hplain' : PlainTarget (trim (trim input)) := by rwa [htrim]
        refine iff_of_true ⟨hempty, trimmed_trim input, ?_⟩ (fun hspace => hcount ?_)
        · dsimp only
          rw [parse_of_plain d hplain', htrim, parsePlain, if_neg hcount, if_neg hempty]
        · obtain ⟨-, host, c, text, hs, hc, hhost, htext⟩ := hspace
          have hcolon : c ≠ ':' := by
            rintro rfl
            exact absurd hc (by decide)
          rw [hs, List.count_append, List.count_cons_of_ne hcolon, List.count_cons_self,
            List.count_eq_zero_of_not_mem hhost, List.count_eq_zero_of_not_mem htext]

theorem target_normal_padded : Target.Normal ⟨"github.com".toList, 443⟩ := by
  refine (@target_normal_iff " github.com:443 ".toList 80 _ (by decide +kernel)).mpr ?_
  rintro ⟨-, host, c, text, hs, hc, -, htext⟩
  have hsplit := rsplitOnce_append (a := host ++ [c]) htext
  rw [List.append_assoc, List.singleton_append, ← hs] at hsplit
  have hparts : rsplitOnce ':' (trim " github.com:443 ".toList) =
      some ("github.com".toList, "443".toList) := by decide +kernel
  have hhost := congrArg Prod.fst (Option.some.inj (hsplit.symm.trans hparts))
  have hlast := congrArg List.getLast? hhost
  rw [List.getLast?_concat] at hlast
  cases hlast
  exact absurd hc (by decide)

/-- A space before the port stays in the stored host. -/
theorem space_stays_in_host :
    Target.parse "github.com :443".toList 80 = .ok ⟨"github.com ".toList, 443⟩ ∧
      ¬Target.Normal ⟨"github.com ".toList, 443⟩ :=
  ⟨by decide +kernel, fun h => absurd (h.trimmed.ending ' ' (by decide)) (by decide)⟩

/-- A name or an IPv4 literal. -/
def IsName (h : List Char) : Prop :=
  h ≠ [] ∧ ∀ c ∈ h, c ∉ [':', '[', ']', '@'] ∧ isWhitespace c = false

/-- A port in range that is written with a plus sign. -/
def SignedPort (text : List Char) : Prop := ∃ digits, text = '+' :: digits ∧ IsPortNumber digits

section Ports

variable {addr host text : List Char} {d : UInt16}

/-- The colon of a scheme is followed by a slash, that of a port by a digit. -/
lemma plainTarget_hostPort (hhost : IsName host) (htext : ∀ c ∈ text, c.isDigit = true) :
    PlainTarget (host ++ ':' :: text) := by
  have hcolon : ':' ∉ host := fun hm => (hhost.2 _ hm).1 (by decide)
  have hslash : ∀ scheme : List Char, ':' ∉ scheme →
      stripStart (scheme ++ "://".toList) (host ++ ':' :: text) = none := by
    intro scheme hscheme
    rw [Option.eq_none_iff_forall_ne_some]
    intro rest hrest
    have he := stripStart_eq_some hrest
    rw [List.append_assoc] at he
    have hsplit := splitOnce_append (b := text) hcolon
    rw [he] at hsplit
    have hparts := (splitOnce_append (b := '/' :: '/' :: rest) hscheme).symm.trans hsplit
    rw [Option.some.injEq, Prod.mk.injEq] at hparts
    exact absurd (htext '/' (hparts.2 ▸ List.mem_cons_self)) (by decide)
  obtain ⟨c, host', rfl⟩ := List.exists_cons_of_ne_nil hhost.1
  refine ⟨?_, fun hhead => ?_, fun hm => ?_⟩
  · rw [noScheme_iff]
    exact ⟨hslash "http".toList (by decide), hslash "https".toList (by decide)⟩
  · cases hhead
    exact (hhost.2 '[' List.mem_cons_self).1 (by decide)
  · rcases List.mem_append.mp hm with hm | hm
    · exact (hhost.2 '@' (List.mem_cons_of_mem c hm)).1 (by decide)
    · rcases List.mem_cons.mp hm with he | hm
      · exact absurd he (by decide)
      · exact absurd (htext '@' hm) (by decide)

lemma parse_bracketed_ok_iff {port : UInt16} (haddr : addr ≠ [] ∧ ']' ∉ addr) :
    (∃ t, Target.parse (['['] ++ addr ++ [']'] ++ ':' :: text) d = .ok t ∧ t.port = port) ↔
      parseU16 (dropWhileEnd isWhitespace text) = some port := by
  have htrim : trim (['['] ++ addr ++ [']'] ++ ':' :: text) =
      '[' :: (addr ++ ']' :: ':' :: dropWhileEnd isWhitespace text) := by
    rw [trim_append_cons (by simp) (by rintro c ⟨⟩; decide) (by decide)]
    simp
  rw [parse_of_bracket d htrim, parseBracketed_append _ haddr.1 haddr.2,
    if_neg (List.cons_ne_nil _ _), stripStart_singleton, Option.getD_some, parsePort]
  cases parseU16 (dropWhileEnd isWhitespace text) with
  | none => exact iff_of_false (fun ⟨t, h, _⟩ => by cases h) (by simp)
  | some n =>
    constructor
    · rintro ⟨t, ⟨⟩, rfl⟩
      rfl
    · rintro ⟨⟩
      exact ⟨_, rfl, rfl⟩

lemma parse_plain_ok_iff {port : UInt16} (hhost : IsName host) (htext : ':' ∉ text) :
    (∃ t, Target.parse (host ++ ':' :: text) d = .ok t ∧ t.port = port) ↔
      (dropWhileEnd isWhitespace text).all Char.isDigit = true ∧
        parseU16 (dropWhileEnd isWhitespace text) = some port := by
  have hcolon : ':' ∉ host := fun hm => (hhost.2 _ hm).1 (by decide)
  have htrim : trim (host ++ ':' :: text) = host ++ ':' :: dropWhileEnd isWhitespace text :=
    trim_append_cons hhost.1 (fun c hc => (hhost.2 c (List.mem_of_head? hc)).2) (by decide)
  have htext' : ':' ∉ dropWhileEnd isWhitespace text := by
    intro hm
    have hmem := (List.dropWhile_sublist isWhitespace).subset (List.mem_reverse.mp hm)
    exact htext (List.mem_reverse.mp hmem)
  have hcount : (host ++ ':' :: dropWhileEnd isWhitespace text).count ':' = 1 := by
    rw [List.count_append, List.count_cons_self, List.count_eq_zero_of_not_mem hcolon,
      List.count_eq_zero_of_not_mem htext']
  generalize dropWhileEnd isWhitespace text = digits at htrim htext' hcount
  constructor
  · rintro ⟨t, hparse, rfl⟩
    have hplain : PlainTarget (trim (host ++ ':' :: text)) := by
      rcases form_of_parse hparse with ⟨rest, hbracket⟩ | hplain
      · obtain ⟨c, host', rfl⟩ := List.exists_cons_of_ne_nil hhost.1
        cases (htrim.symm.trans hbracket)
        exact absurd (hhost.2 '[' List.mem_cons_self).1 (by decide)
      · exact hplain
    rw [parse_of_plain d hplain, htrim, parsePlain, if_pos hcount] at hparse
    obtain ⟨host', text', port, hs, htext'', -, hdigits, hport, rfl⟩ :=
      parseHostPort_ok_iff.mp hparse
    have hsplit := rsplitOnce_append (a := host) htext'
    rw [hs, rsplitOnce_append htext'', Option.some.injEq, Prod.mk.injEq] at hsplit
    obtain ⟨rfl, rfl⟩ := hsplit
    exact ⟨hdigits, hport⟩
  · rintro ⟨hdigits, hport⟩
    have hplain : PlainTarget (trim (host ++ ':' :: text)) := by
      rw [htrim]
      exact plainTarget_hostPort hhost (List.all_eq_true.mp hdigits)
    have hok := parseHostPort_ok_iff.mpr
      ⟨host, digits, port, rfl, htext', hhost.1, hdigits, hport, rfl⟩
    refine ⟨⟨host, port⟩, ?_, rfl⟩
    rw [parse_of_plain d hplain, htrim, parsePlain, if_pos hcount, hok]

end Ports

/-- Both forms take a port for the number that it writes, but a plus sign before it only in the
form with brackets. -/
theorem target_ports_agree_iff {a h p : List Char} (d : UInt16) (ha : a ≠ [] ∧ ']' ∉ a)
    (hh : IsName h) (hp : ':' ∉ p) :
    (∀ port, (∃ t, Target.parse (['['] ++ a ++ [']'] ++ ':' :: p) d = .ok t ∧ t.port = port) ↔
      ∃ t, Target.parse (h ++ ':' :: p) d = .ok t ∧ t.port = port) ↔
    ¬SignedPort (dropWhileEnd isWhitespace p) := by
  simp only [parse_bracketed_ok_iff ha, parse_plain_ok_iff hh hp]
  constructor
  · rintro hagree ⟨digits, hdigits, hnumber⟩
    have hport := parseU16_eq_some_iff.mpr ⟨digits, .inr hdigits, hnumber, rfl⟩
    have hall := ((hagree _).mp hport).1
    rw [hdigits] at hall
    exact absurd (List.all_eq_true.mp hall '+' List.mem_cons_self) (by decide)
  · intro hunsigned port
    refine ⟨fun hport => ⟨?_, hport⟩, And.right⟩
    obtain ⟨digits, hdigits | hdigits, hnumber, -⟩ := parseU16_eq_some_iff.mp hport
    · rw [hdigits]
      exact hnumber.2.1
    · exact absurd ⟨digits, hdigits, hnumber⟩ hunsigned

theorem target_ports_agree_8443 :
    (∃ t, Target.parse "[::1]:8443".toList 443 = .ok t ∧ t.port = 8443) ↔
      ∃ t, Target.parse "github.com:8443".toList 443 = .ok t ∧ t.port = 8443 := by
  have hname : IsName "github.com".toList := by
    refine ⟨by decide, ?_⟩
    simp [isWhitespace]
  have hagree := @target_ports_agree_iff "::1".toList "github.com".toList "8443".toList 443
    (by decide) hname (by decide)
  refine hagree.mpr ?_ 8443
  rintro ⟨digits, hdigits, -⟩
  have hhead : some '8' = some '+' := congrArg List.head? hdigits
  exact absurd (Option.some.inj hhead) (by decide)

/-- A plus sign is part of a port in the form with brackets and of none in the other. -/
theorem plus_sign_in_brackets :
    Target.parse "[::1]:+8443".toList 443 = .ok ⟨"[::1]".toList, 8443⟩ ∧
      Target.parse "github.com:+8443".toList 443 =
        .error (invalid "github.com:+8443".toList "expected '<host>:<port>'") := by
  decide +kernel

end IpTools

import IpTools.Library.CharClass
import IpTools.Library.Delimited
import IpTools.Library.Numerals
import IpTools.Model.Display

/-!
# The characters of a record's text

Numerals and addresses are written with few characters, and what is escaped has no control
character and can be read back. A record's text has a control character where the tag of a CAA
record has.
-/

namespace IpTools

open CharClass

/-- The characters of numerals and addresses. -/
def IsBare (c : Char) : Prop := c.isAlphanum = true ∨ c ∈ ['.', ':', '[', ']', '%']

instance : DecidablePred IsBare := fun c =>
  inferInstanceAs (Decidable (c.isAlphanum = true ∨ c ∈ ['.', ':', '[', ']', '%']))

lemma IsBare.isPrintable {c : Char} (h : IsBare c) : IsPrintable c := by
  rcases h with h | h
  · exact isPrintable_of_isAlphanum h
  · exact List.all_iff_forall_prop.mp (by decide) c h

lemma bare_nat (n : Nat) : All IsBare (toString n) := (all_nat n).mono (fun _ => Or.inl)

lemma bare_ipv4 (ip : Ipv4Addr) : All IsBare (toString ip) := by
  apply all_intercalate (show All IsBare "." by decide)
  intro s hs
  obtain ⟨o, -, rfl⟩ := List.mem_map.mp hs
  exact bare_nat o.toNat

lemma bare_fmtSubslice (chunk : List Nat) : All IsBare (fmtSubslice chunk) := by
  apply all_intercalate (show All IsBare ":" by decide)
  intro s hs
  obtain ⟨n, -, rfl⟩ := List.mem_map.mp hs
  rw [all_ofList_iff]
  exact fun c hc => Or.inl (isAlphanum_of_mem_toDigits (by decide) (by decide) c hc)

lemma bare_ipv6 (ip : Ipv6Addr) : All IsBare (toString ip) := by
  simp only [toString]
  split
  · exact All.append (by decide) (bare_ipv4 _)
  · split
    · exact ((bare_fmtSubslice _).append (by decide)).append (bare_fmtSubslice _)
    · exact bare_fmtSubslice _

lemma bare_socketAddr (d : SocketAddr) : All IsBare (toString d) := by
  cases d with
  | v4 a => exact ((bare_ipv4 a.ip).append (by decide)).append (bare_nat _)
  | v6 a =>
    have hip := All.append (show All IsBare "[" by decide) (bare_ipv6 a.ip)
    have hport := bare_nat a.port.toNat
    by_cases hs : a.scopeId = 0
    · rw [show toString (SocketAddr.v6 a) =
        "[" ++ toString a.ip ++ "]:" ++ toString a.port.toNat from if_pos hs]
      exact (hip.append (by decide)).append hport
    · rw [show toString (SocketAddr.v6 a) = "[" ++ toString a.ip ++ "%" ++
        toString a.scopeId.toNat ++ "]:" ++ toString a.port.toNat from if_neg hs]
      exact (((hip.append (by decide)).append (bare_nat _)).append (by decide)).append hport

/-- The ASCII control characters. -/
def IsAsciiControl (c : Char) : Prop := c.toNat < 0x20 ∨ c.toNat = 0x7f

instance : DecidablePred IsAsciiControl := fun c =>
  inferInstanceAs (Decidable (c.toNat < 0x20 ∨ c.toNat = 0x7f))

lemma not_control_of_isPrintable {c : Char} (h : IsPrintable c) : ¬IsAsciiControl c := by
  unfold IsPrintable at h
  unfold IsAsciiControl
  omega

lemma isControl_of_isAsciiControl {c : Char} (h : IsAsciiControl c) : isControl c = true := by
  unfold isControl
  simp only [Bool.or_eq_true, Bool.and_eq_true, decide_eq_true_eq]
  rcases h with h | h <;> omega

/-- The characters with a short escape, each with the letter of it. -/
def shortEscapes : List (Char × Char) :=
  [('\t', 't'), ('\r', 'r'), ('\n', 'n'), ('\x00', '0'), ('"', '"'), ('\\', '\\')]

/-- The ways to write a character in the `Debug` text of a string. -/
inductive Escaped (c : Char) : List Char → Prop
  | plain (h : c ≠ '\\') (hcontrol : ¬IsAsciiControl c) : Escaped c [c]
  | short {d : Char} (h : (c, d) ∈ shortEscapes) : Escaped c ['\\', d]
  | code : Escaped c (['\\', 'u', '\x7b'] ++ Nat.toDigits 16 c.toNat ++ ['\x7d'])

lemma escaped_escapeDebug (c : Char) : Escaped c (escapeDebug c) := by
  unfold escapeDebug
  split_ifs with h1 h2 h3 h4 h5 h6
  · exact .short (by subst h1; decide)
  · exact .short (by subst h2; decide)
  · exact .short (by subst h3; decide)
  · exact .short (by subst h4; decide)
  · exact .short (by rcases h5 with rfl | rfl <;> decide)
  · exact .code
  · refine .plain (fun h => h5 (.inr h)) ?_
    unfold IsAsciiControl
    omega

lemma escaped_textDebug (unprintable : Char → Bool) (c : Char) :
    Escaped c (if 0xa0 ≤ c.toNat && unprintable c then
      ['\\', 'u', '\x7b'] ++ Nat.toDigits 16 c.toNat ++ ['\x7d'] else escapeDebug c) := by
  split_ifs
  · exact .code
  · exact escaped_escapeDebug c

section Class

variable {p : Char → Prop} (hp : ∀ c, IsPrintable c → p c)

include hp

lemma all_of_mem_toDigits {b n : Nat} (hb : 1 < b) (hle : b ≤ 16) : ∀ c ∈ Nat.toDigits b n, p c :=
  fun c hc => hp c (isPrintable_of_isAlphanum (isAlphanum_of_mem_toDigits hb hle c hc))

/-- What is escaped is printable, and the other characters are the text's own. -/
lemma all_escPresent {s : String} (h : ∀ c ∈ s.toList, ¬IsAsciiControl c → p c) :
    All p (escPresent s) := by
  unfold escPresent
  rw [all_ofList_iff]
  refine all_flatMap (fun c hc => ?_)
  by_cases hcontrol : isControl c = true
  · rw [if_pos hcontrol]
    intro d hd
    rcases List.mem_cons.mp hd with rfl | hd
    · exact hp _ (by decide)
    rcases List.mem_append.mp hd with hd | hd
    · rw [(List.mem_replicate.mp hd).2]
      exact hp _ (by decide)
    · exact all_of_mem_toDigits hp (by decide) (by decide) d hd
  · rw [if_neg hcontrol]
    intro d hd
    rw [List.mem_singleton.mp hd]
    exact h c hc (fun hc => hcontrol (isControl_of_isAsciiControl hc))

lemma Escaped.all {c : Char} {x : List Char} (hx : Escaped c x) (h : ¬IsAsciiControl c → p c) :
    ∀ d ∈ x, p d := by
  have hletter : ∀ e ∈ shortEscapes, IsPrintable e.2 := by decide
  have hslash : p '\\' := hp _ (by decide)
  cases hx with
  | plain _ hcontrol =>
    intro d hd
    rw [List.mem_singleton.mp hd]
    exact h hcontrol
  | short hshort =>
    intro d hd
    rcases List.mem_cons.mp hd with rfl | hd
    · exact hslash
    · rw [List.mem_singleton.mp hd]
      exact hp _ (hletter _ hshort)
  | code =>
    have hlead : ∀ d ∈ ['\\', 'u', '\x7b'], IsPrintable d :=
      List.all_iff_forall_prop.mp (by decide)
    intro d hd
    rcases List.mem_append.mp hd with hd | hd
    · rcases List.mem_append.mp hd with hd | hd
      · exact hp d (hlead d hd)
      · exact all_of_mem_toDigits hp (by decide) (by decide) d hd
    · rw [List.mem_singleton.mp hd]
      exact hp _ (by decide)

lemma all_textDebug {unprintable : Char → Bool} {s : String}
    (h : ∀ c ∈ s.toList, ¬IsAsciiControl c → p c) : All p (textDebug unprintable s) := by
  have hquote : p '"' := hp _ (by decide)
  unfold textDebug
  rw [all_ofList_iff]
  intro d hd
  rcases List.mem_append.mp hd with hd | hd
  · rcases List.mem_cons.mp hd with rfl | hd
    · exact hquote
    · exact all_flatMap (fun c hc => (escaped_textDebug unprintable c).all hp (h c hc)) d hd
  · rw [List.mem_singleton.mp hd]
    exact hquote

end Class

lemma code_injective {c d : Char} {s t : List Char}
    (h : Nat.toDigits 16 c.toNat ++ '\x7d' :: s = Nat.toDigits 16 d.toNat ++ '\x7d' :: t) :
    c = d ∧ s = t := by
  have hclose : ∀ n, '\x7d' ∉ Nat.toDigits 16 n := fun n hn =>
    absurd (isAlphanum_of_mem_toDigits (by decide) (by decide) _ hn) (by decide)
  have hstart : Nat.toDigits 16 c.toNat ++ '\x7d' :: [] <+:
      Nat.toDigits 16 d.toNat ++ '\x7d' :: ([] ++ t) := ⟨s, by simpa using h⟩
  have hdigits := (Delimited.starts_iff (hclose _) (hclose _)).mp hstart
  rw [hdigits] at h
  have hrest := (List.cons.inj (List.append_cancel_left h)).2
  have hnat := Numerals.toDigits_injective (by decide) (fun c => (toDigit 16 c).getD 0)
    (by decide) hdigits
  exact ⟨Char.toNat_inj.mp hnat, hrest⟩

/-- No way to write a character starts a way to write another. -/
lemma Escaped.append_inj {c d : Char} {x y s t : List Char} (hx : Escaped c x) (hy : Escaped d y)
    (h : x ++ s = y ++ t) : c = d ∧ s = t := by
  have hletters : ∀ p ∈ shortEscapes, ∀ q ∈ shortEscapes, p.2 = q.2 → p.1 = q.1 := by decide
  have hu : ∀ p ∈ shortEscapes, p.2 ≠ 'u' := by decide
  cases hx with
  | plain hc =>
    cases hy with
    | plain hd => exact List.cons.inj h
    | short hd => exact absurd (List.cons.inj h).1 hc
    | code => exact absurd (List.cons.inj h).1 hc
  | short hc =>
    cases hy with
    | plain hd => exact absurd (List.cons.inj h).1.symm hd
    | short hd =>
      obtain ⟨hletter, hrest⟩ := List.cons.inj (List.cons.inj h).2
      exact ⟨hletters _ hc _ hd hletter, hrest⟩
    | code => exact absurd (List.cons.inj (List.cons.inj h).2).1 (hu _ hc)
  | code =>
    cases hy with
    | plain hd => exact absurd (List.cons.inj h).1.symm hd
    | short hd => exact absurd (List.cons.inj (List.cons.inj h).2).1.symm (hu _ hd)
    | code =>
      simp only [List.append_assoc, List.cons_append, List.nil_append, List.cons.injEq,
        true_and] at h
      exact code_injective h

/-- A string is read back from its `Debug` text, whatever is escaped. -/
theorem textDebug_injective (unprintable : Char → Bool) :
    Function.Injective (textDebug unprintable) := by
  have hescaped := escaped_textDebug unprintable
  intro s t h
  unfold textDebug at h
  have htext := List.append_cancel_right (List.cons.inj (String.ofList_injective h)).2
  refine String.toList_injective (Delimited.flatMap_injective (fun c hnil => ?_)
    (fun c d x y h => (hescaped c).append_inj (hescaped d) h) htext)
  have hc := hescaped c
  rw [hnil] at hc
  cases hc

def Clean (s : String) : Prop := All (fun c => ¬IsAsciiControl c) s

instance (s : String) : Decidable (Clean s) :=
  inferInstanceAs (Decidable (All (fun c => ¬IsAsciiControl c) s))

lemma clean_of_bare {s : String} (h : All IsBare s) : Clean s :=
  h.mono (fun _ hc => not_control_of_isPrintable hc.isPrintable)

lemma clean_escPresent (s : String) : Clean (escPresent s) :=
  all_escPresent (fun _ => not_control_of_isPrintable) (fun _ _ h => h)

lemma clean_textDebug (unprintable : Char → Bool) (s : String) : Clean (textDebug unprintable s) :=
  all_textDebug (fun _ => not_control_of_isPrintable) (fun _ _ h => h)

/-- The text of a record has a control character where the tag of a CAA record has. -/
theorem clean_display_iff (unprintable : Char → Bool) (d : DnsRecord) :
    Clean (d.display unprintable) ↔ ∀ flags tag value, d = .caa flags tag value → Clean tag := by
  have hnat : ∀ n : Nat, Clean (toString n) := fun n => clean_of_bare (bare_nat n)
  cases d with
  | a ip => exact iff_of_true (clean_of_bare (bare_ipv4 ip)) (fun _ _ _ h => by cases h)
  | aaaa ip => exact iff_of_true (clean_of_bare (bare_ipv6 ip)) (fun _ _ _ h => by cases h)
  | cname name | ns name | ptr name | soa name =>
    exact iff_of_true (clean_escPresent name) (fun _ _ _ h => by cases h)
  | txt text => exact iff_of_true (clean_textDebug unprintable text) (fun _ _ _ h => by cases h)
  | mx preference exchange =>
    refine iff_of_true ?_ (fun _ _ _ h => by cases h)
    exact ((hnat _).append (show Clean " " by decide)).append (clean_escPresent exchange)
  | srv priority weight port target =>
    refine iff_of_true ?_ (fun _ _ _ h => by cases h)
    have hspace : Clean " " := by decide
    exact ((((((hnat _).append hspace).append (hnat _)).append hspace).append (hnat _)).append
      hspace).append (clean_escPresent target)
  | caa flags tag value =>
    have htext : (DnsRecord.caa flags tag value).display unprintable =
        toString flags.toNat ++ " " ++ tag ++ " " ++ escPresent value := rfl
    have hspace : Clean " " := by decide
    rw [htext]
    constructor
    · intro h flags' tag' value' hd
      cases hd
      exact (all_append_iff.mp (all_append_iff.mp (all_append_iff.mp h).1).1).2
    · intro h
      exact ((((hnat _).append hspace).append (h flags tag value rfl)).append hspace).append
        (clean_escPresent value)

end IpTools

import IpTools.Proofs.Display
import IpTools.Report.Report
import Mathlib.Data.List.TakeWhile

/-!
# The characters of a report

What the reports write of their own is printable ASCII, so that a class of characters that has
these holds a report where it holds the texts that the report shows.
-/

namespace IpTools

open CharClass

lemma printable_nat (n : Nat) : All IsPrintable (toString n) :=
  (bare_nat n).mono (fun _ => IsBare.isPrintable)

lemma printable_int (n : Int) : All IsPrintable (toString n) := by
  cases n with
  | ofNat n => exact printable_nat n
  | negSucc n => exact All.append (by decide) (printable_nat (n + 1))

lemma printable_socketAddr (d : SocketAddr) : All IsPrintable (toString d) :=
  (bare_socketAddr d).mono (fun _ => IsBare.isPrintable)

lemma printable_ipAddr (ip : IpAddr) : All IsPrintable (toString ip) := by
  cases ip with
  | v4 ip => exact (bare_ipv4 ip).mono (fun _ => IsBare.isPrintable)
  | v6 ip => exact (bare_ipv6 ip).mono (fun _ => IsBare.isPrintable)

lemma printable_failureKind (kind : FailureKind) : All IsPrintable (toString kind) := by
  cases kind <;> decide

lemma printable_recordType (rt : DnsRecordType) : All IsPrintable (toString rt) := by
  cases rt <;> decide

lemma printable_msOrDash (ms : Option UInt64) : All IsPrintable (msOrDash ms) := by
  cases ms with
  | none => exact show All IsPrintable "-" by decide
  | some n => exact (printable_nat n.toNat).append (by decide)

lemma printable_fmt (v : Option UInt64) : All IsPrintable (fmt v) := by
  cases v with
  | none => exact show All IsPrintable "-" by decide
  | some n => exact printable_nat n.toNat

lemma printable_formatTenthsBits (bits : UInt64) : All IsPrintable (formatTenthsBits bits) := by
  have hsign : ∀ c : Prop, ∀ _ : Decidable c, All IsPrintable (if c then "-" else "") := by
    intro c hc
    split <;> decide
  unfold formatTenthsBits
  dsimp only
  split
  · split
    · exact (hsign _ _).append (by decide)
    · decide
  · exact (((hsign _ _).append (printable_nat _)).append (by decide)).append (printable_nat _)

lemma printable_formatRate (rate : Float) : All IsPrintable (formatRate rate) :=
  (printable_formatTenthsBits _).append (by decide)

lemma printable_toUppercase {s : String} (h : All IsPrintable s) :
    All IsPrintable (toUppercase s) := by
  have hkey : ∀ n < 0x7f, 0x20 ≤ n → IsPrintable (Char.ofNat n).toUpper := by decide
  unfold toUppercase
  rw [all_ofList_iff]
  intro d hd
  obtain ⟨c, hc, rfl⟩ := List.mem_map.mp hd
  obtain ⟨hle, hlt⟩ := h c hc
  have hc' := hkey c.toNat (by omega) hle
  rwa [Char.ofNat_toNat] at hc'

lemma printable_days {days : Int} {plural : String} (h : All IsPrintable plural) :
    All IsPrintable (" (expires in " ++ toString days ++ " day" ++ plural ++ ")") :=
  ((((show All IsPrintable " (expires in " by decide).append (printable_int days)).append
    (by decide)).append h).append (by decide)

lemma all_trimEndMatches_iff {p : Char → Prop} {z : Char} {s : String} (hz : p z) :
    All p (String.ofList (trimEndMatches z s.toList)) ↔ All p s := by
  rw [all_ofList_iff]
  unfold trimEndMatches dropWhileEnd
  constructor
  · intro h c hc
    rw [← List.mem_reverse, ← List.takeWhile_append_dropWhile (p := fun d => decide (d = z))
      (l := s.toList.reverse)] at hc
    rcases List.mem_append.mp hc with hc | hc
    · have hcz := List.mem_takeWhile_imp hc
      rwa [of_decide_eq_true hcz]
    · exact h c (List.mem_reverse.mpr hc)
  · intro h c hc
    have hmem := (List.dropWhile_sublist _).subset (List.mem_reverse.mp hc)
    exact h c (List.mem_reverse.mp hmem)

lemma forall_mem_rows_if {q : String → Prop} {c : Prop} [Decidable c] {rows : List String}
    (h : ∀ row ∈ rows, q row) : ∀ row ∈ if c then rows else [], q row := by
  split
  · exact h
  · exact List.forall_mem_nil _

lemma all_getD {p : Char → Prop} {value : Option String} {d : String} (hd : All p d)
    (h : ∀ v ∈ value, All p v) : All p (value.getD d) := by
  cases value with
  | none => exact hd
  | some v => exact h v rfl

section Class

variable {p : Char → Prop} (hp : ∀ c, IsPrintable c → p c)

include hp

lemma all_spaces (n : Nat) : All p (String.ofList (List.replicate n ' ')) := by
  rw [all_ofList_iff]
  intro c hc
  rw [(List.mem_replicate.mp hc).2]
  exact hp _ (by decide)

lemma all_padRight {width : Nat} {s : String} (h : All p s) : All p (padRight width s) :=
  h.append (all_spaces hp _)

lemma all_padLeft {width : Nat} {s : String} (h : All p s) : All p (padLeft width s) :=
  (all_spaces hp _).append h

lemma all_display {unprintable : Char → Bool} {d : DnsRecord} (h : ∀ t ∈ d.texts, All p t) :
    All p (d.display unprintable) := by
  have hnat : ∀ n : Nat, All p (toString n) := fun n => (printable_nat n).mono hp
  have hspace : All p " " := (show All IsPrintable " " by decide).mono hp
  have hesc : ∀ t ∈ d.texts, All p (escPresent t) :=
    fun t ht => all_escPresent hp (fun c hc _ => h t ht c hc)
  cases d with
  | a ip => exact (printable_ipAddr (.v4 ip)).mono hp
  | aaaa ip => exact (printable_ipAddr (.v6 ip)).mono hp
  | cname name | ns name | ptr name | soa name => exact hesc name (List.mem_singleton.mpr rfl)
  | txt text => exact all_textDebug hp (fun c hc _ => h text (List.mem_singleton.mpr rfl) c hc)
  | mx preference exchange =>
    exact ((hnat _).append hspace).append (hesc exchange (List.mem_singleton.mpr rfl))
  | srv priority weight port target =>
    exact ((((((hnat _).append hspace).append (hnat _)).append hspace).append (hnat _)).append
      hspace).append (hesc target (List.mem_singleton.mpr rfl))
  | caa flags tag value =>
    have htag := h tag List.mem_cons_self
    have hvalue := hesc value (List.mem_cons_of_mem _ (List.mem_singleton.mpr rfl))
    exact ((((hnat _).append hspace).append htag).append hspace).append hvalue

lemma all_displays {unprintable : Char → Bool} {records : List DnsRecord}
    (h : ∀ d ∈ records, ∀ t ∈ d.texts, All p t) :
    All p (", ".intercalate (records.map (DnsRecord.display unprintable))) := by
  refine all_intercalate ((show All IsPrintable ", " by decide).mono hp) (fun s hs => ?_)
  obtain ⟨d, hd, rfl⟩ := List.mem_map.mp hs
  exact all_display hp (h d hd)

lemma all_label {r : ResolverKind} (h : ∀ t ∈ r.texts, All p t) : All p r.label := by
  cases r with
  | system => exact (show All IsPrintable "system" by decide).mono hp
  | custom addr => exact (printable_socketAddr addr).mono hp
  | doh endpoint => exact h endpoint (List.mem_singleton.mpr rfl)
  | dot endpoint =>
    exact (h endpoint (List.mem_singleton.mpr rfl)).append
      ((show All IsPrintable " (DoT)" by decide).mono hp)

lemma all_rowOf_iff {label : String} {value : Option String} (hlabel : All IsPrintable label) :
    (∀ row ∈ rowOf label value, All p row) ↔ ∀ v ∈ value, All p v := by
  cases value with
  | none => exact iff_of_true (fun row h => absurd h List.not_mem_nil) (fun v h => by cases h)
  | some v =>
    rw [rowOf, List.forall_mem_singleton, all_append_iff, and_iff_right (hlabel.mono hp)]
    simp only [Option.mem_some_iff, forall_eq']

lemma all_renderValidity_iff {cert : CertificateSummary} :
    All p (renderValidity cert) ↔
      ∀ a ∈ cert.notAfterUtc, ∀ b ∈ cert.notBeforeUtc, All p a ∧ All p b := by
  have hlit : ∀ s, All IsPrintable s → All p s := fun s hs => hs.mono hp
  unfold renderValidity
  split
  · rename_i a b ha hb
    rw [ha, hb]
    simp only [all_append_iff, all_trimEndMatches_iff (hp 'Z' (by decide)), Option.mem_some_iff,
      forall_eq', hlit " (valid " (by decide), hlit ".." (by decide), hlit ")" (by decide),
      true_and, and_true]
    exact and_comm
  · rename_i hnone
    refine iff_of_true (hlit "" (by decide)) (fun a ha b hb => absurd ?_ (hnone a b ha))
    exact hb

lemma all_renderSans_iff {sans : List String} :
    All p (renderSans sans) ↔ ∀ san ∈ sans, All p san := by
  have hlit : ∀ s, All IsPrintable s → All p s := fun s hs => hs.mono hp
  unfold renderSans
  split
  · rename_i hempty
    rw [List.isEmpty_iff.mp hempty]
    exact iff_of_true (hlit "" (by decide)) (fun san h => absurd h List.not_mem_nil)
  · rw [all_append_iff, and_iff_right (hlit "; sans: " (by decide)),
      all_intercalate_iff (hlit ", " (by decide))]

/-- A snippet is shown with its control characters as printable escapes. -/
lemma all_sanitizeSnippet {s : String} (h : ∀ c ∈ s.toList, ¬IsAsciiControl c → p c) :
    All p (sanitizeSnippet s) := by
  have hescape : ∀ l : List Char, l.all (fun d => IsPrintable d) = true → ∀ d ∈ l, p d :=
    fun l hl d hd => hp d (List.all_iff_forall_prop.mp hl d hd)
  unfold sanitizeSnippet
  rw [all_ofList_iff]
  refine all_flatMap (fun c hc => ?_)
  unfold sanitizeChar
  split_ifs with h1 h2 h3 h4 h5
  · exact hescape _ (by decide)
  · exact hescape _ (by decide)
  · exact hescape _ (by decide)
  · exact hescape _ (by decide)
  · intro d hd
    rcases List.mem_cons.mp hd with rfl | hd
    · exact hp _ (by decide)
    rcases List.mem_cons.mp hd with rfl | hd
    · exact hp _ (by decide)
    rcases List.mem_append.mp hd with hd | hd
    · rw [(List.mem_replicate.mp hd).2]
      exact hp _ (by decide)
    · exact all_of_mem_toDigits hp (by decide) (by decide) d hd
  · exact fun d hd => by
      rw [List.mem_singleton.mp hd]
      exact h c hc h5

end Class

end IpTools

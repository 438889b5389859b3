import IpTools.Model.Certificate
import IpTools.Proofs.Text
import IpTools.Wire.Authority

/-!
# Names that a certificate covers

The matching of subject alternative names against a reference. A wildcard stands for one label, and
the code takes the empty text before a leading dot for one.
-/

namespace IpTools

/-- Equality but for the case of ASCII letters. -/
def SameName (a b : List Char) : Prop := a.map Char.toLower = b.map Char.toLower

/-- Whether a name is an alternative name, or a wildcard name with one label in the place of the
wildcard. -/
def MatchesName (san name : List Char) : Prop :=
  SameName san name ∨ ∃ suffix label rest, san = '*' :: '.' :: suffix ∧
    name = label ++ '.' :: rest ∧ label ≠ [] ∧ '.' ∉ label ∧ SameName suffix rest

/-- Whether some alternative name covers a server name, given without brackets. -/
def NameCovered (name : List Char) (sans : List String) : Prop :=
  (∃ ip, parseIpAddr name = some ip ∧ ∃ san ∈ sans, parseIpAddr san.toList = some ip) ∨
    parseIpAddr name = none ∧ ∃ san ∈ sans, MatchesName san.toList name

/-- Whether an alternative name is a wildcard over what follows the leading dot of a name. -/
def WildcardBeforeDot (san name : List Char) : Prop :=
  ∃ suffix rest, san = '*' :: '.' :: suffix ∧ name = '.' :: rest ∧ SameName suffix rest

/-- Whether a wildcard stands before the leading dot of a name that is no alternative name
itself. -/
def EmptyLabelCovered (name : List Char) (sans : List String) : Prop :=
  parseIpAddr name = none ∧ (∃ san ∈ sans, WildcardBeforeDot san.toList name) ∧
    ∀ san ∈ sans, ¬SameName san.toList name

lemma isLower_toLower {c : Char} (hupper : c.val ≥ 'A'.val ∧ c.val ≤ 'Z'.val) :
    c.toLower.isLower = true := by
  unfold Char.toLower Char.isLower
  rw [dif_pos hupper]
  simp only [Bool.and_eq_true, decide_eq_true_eq, ge_iff_le, UInt32.le_iff_toNat_le,
    UInt32.toNat_add] at hupper ⊢
  simp at hupper ⊢
  omega

/-- A character that is no letter in lower case is the lower case of itself alone. -/
lemma toLower_eq_iff {c d : Char} (hd : d.isLower = false) (hself : d.toLower = d) :
    c.toLower = d ↔ c = d := by
  constructor
  · intro h
    by_cases hupper : c.val ≥ 'A'.val ∧ c.val ≤ 'Z'.val
    · have hlower := isLower_toLower hupper
      rw [h, hd] at hlower
      cases hlower
    · rw [← h]
      unfold Char.toLower
      rw [dif_neg hupper]
  · rintro rfl
    exact hself

lemma map_toLower_dotted {s suffix : List Char} :
    s.map Char.toLower = '*' :: '.' :: suffix ↔
      ∃ t, s = '*' :: '.' :: t ∧ t.map Char.toLower = suffix := by
  constructor
  · intro h
    obtain ⟨c, s, rfl, hc, h⟩ := List.map_eq_cons_iff.mp h
    obtain ⟨d, t, rfl, hd, h⟩ := List.map_eq_cons_iff.mp h
    rw [toLower_eq_iff (by decide) (by decide)] at hc hd
    exact ⟨t, by rw [hc, hd], h⟩
  · rintro ⟨t, rfl, rfl⟩
    rfl

/-- The first label ends at the same dot in either case. -/
lemma splitOnce_map_toLower (s : List Char) :
    splitOnce '.' (s.map Char.toLower) =
      (splitOnce '.' s).map (fun r => (r.1.map Char.toLower, r.2.map Char.toLower)) := by
  have hdot : ∀ t : List Char, '.' ∈ t.map Char.toLower → '.' ∈ t := by
    intro t h
    obtain ⟨c, hc, hlower⟩ := List.mem_map.mp h
    rw [toLower_eq_iff (by decide) (by decide)] at hlower
    exact hlower ▸ hc
  by_cases hmem : '.' ∈ s
  · obtain ⟨u, v, rfl, hu⟩ := List.eq_append_cons_of_mem hmem
    have hmap : (u ++ '.' :: v).map Char.toLower =
        u.map Char.toLower ++ '.' :: v.map Char.toLower := by
      rw [List.map_append, List.map_cons, show Char.toLower '.' = '.' by decide]
    rw [hmap, splitOnce_append (fun h => hu (hdot u h)), splitOnce_append hu]
    rfl
  · rw [splitOnce_of_notMem hmem, splitOnce_of_notMem (fun h => hmem (hdot s h))]
    rfl

lemma certCoversHostname_of_ip {sni : String} {ip : IpAddr} (sans : List String)
    (hip : parseIpAddr (wireHost sni.toList) = some ip) :
    certCoversHostname sni sans = true ↔ ∃ san ∈ sans, parseIpAddr san.toList = some ip := by
  change parseIpAddr ((sni.toList.dropWhile (· = '[')).reverse.dropWhile (· = ']')).reverse = _ at hip
  unfold certCoversHostname
  simp only [hip, List.any_eq_true, decide_eq_true_eq]

/-- A wildcard is followed by what stands after the first dot of the name. -/
lemma wildcard_rest {suffix name : List Char} :
    (∃ label rest, name = label ++ '.' :: rest ∧ '.' ∉ label ∧ SameName suffix rest) ↔
      (splitOnce '.' (name.map Char.toLower)).any
        (fun r => r.2 = suffix.map Char.toLower) = true := by
  rw [splitOnce_map_toLower]
  constructor
  · rintro ⟨label, rest, rfl, hlabel, hsame⟩
    rw [splitOnce_append hlabel]
    exact decide_eq_true hsame.symm
  · intro h
    cases hsplit : splitOnce '.' name with
    | none =>
      rw [hsplit] at h
      cases h
    | some r =>
      rw [hsplit] at h
      obtain ⟨hname, hlabel⟩ := splitOnce_eq_some_iff.mp hsplit
      exact ⟨r.1, r.2, hname, hlabel, (of_decide_eq_true h).symm⟩

/-- The label that a wildcard stands for is the one before the first dot, or empty. -/
lemma matches_or_wildcardBeforeDot {suffix name : List Char} :
    MatchesName ('*' :: '.' :: suffix) name ∨ WildcardBeforeDot ('*' :: '.' :: suffix) name ↔
      ∃ label rest, name = label ++ '.' :: rest ∧ '.' ∉ label ∧ SameName suffix rest := by
  constructor
  · rintro ((hsame | ⟨s, label, rest, hs, hname, -, hdot, hsame⟩) | ⟨s, rest, hs, hname, hsame⟩)
    · -- the wildcard name itself, of which the star is the first label
      obtain ⟨t, rfl, hrest⟩ := map_toLower_dotted.mp (Eq.symm hsame)
      exact ⟨['*'], t, rfl, by decide, hrest.symm⟩
    · obtain rfl : suffix = s := by simpa using hs
      exact ⟨label, rest, hname, hdot, hsame⟩
    · obtain rfl : suffix = s := by simpa using hs
      exact ⟨[], rest, hname, by simp, hsame⟩
  · rintro ⟨label, rest, hname, hdot, hsame⟩
    by_cases hlabel : label = []
    · subst hlabel
      exact Or.inr ⟨suffix, rest, rfl, hname, hsame⟩
    · exact Or.inl (Or.inr ⟨suffix, label, rest, rfl, hname, hlabel, hdot, hsame⟩)

lemma certCoversHostname_of_name {sni : String} (sans : List String)
    (hip : parseIpAddr (wireHost sni.toList) = none) :
    certCoversHostname sni sans = true ↔ ∃ san ∈ sans,
      MatchesName san.toList (wireHost sni.toList) ∨
        WildcardBeforeDot san.toList (wireHost sni.toList) := by
  unfold certCoversHostname
  change parseIpAddr ((sni.toList.dropWhile (· = '[')).reverse.dropWhile (· = ']')).reverse = _ at hip
  simp only [hip, List.any_eq_true]
  apply exists_congr
  intro san
  apply and_congr_right
  intro _
  split
  · rename_i wildcard hsan
    obtain ⟨suffix, hsuffix, rfl⟩ := map_toLower_dotted.mp hsan
    rw [hsuffix, matches_or_wildcardBeforeDot, wildcard_rest]
    split <;> rename_i hsplit
    · rw [show splitOnce '.' ((wireHost sni.toList).map Char.toLower) = _ from hsplit]
      rfl
    · rw [show splitOnce '.' ((wireHost sni.toList).map Char.toLower) = _ from hsplit]
      rfl
  · rename_i hplain
    have hdotted : ∀ suffix, san.toList ≠ '*' :: '.' :: suffix := by
      intro suffix h
      exact hplain _ (map_toLower_dotted.mpr ⟨suffix, h, rfl⟩)
    rw [decide_eq_true_eq]
    constructor
    · exact fun h => Or.inl (Or.inl h)
    · rintro ((hsame | ⟨suffix, _, _, h, -⟩) | ⟨suffix, _, h, -⟩)
      · exact hsame
      · exact absurd h (hdotted suffix)
      · exact absurd h (hdotted suffix)

lemma not_matches_of_wildcardBeforeDot {san name : List Char} (hdot : WildcardBeforeDot san name)
    {other : List Char} (hother : MatchesName other name) : SameName other name := by
  obtain ⟨-, rest, -, rfl, -⟩ := hdot
  rcases hother with hsame | ⟨_, label, tail, -, hname, hlabel, hmem, -⟩
  · exact hsame
  · -- a label before the first dot of such a name is empty
    obtain ⟨c, label, rfl⟩ := List.exists_cons_of_ne_nil hlabel
    obtain ⟨rfl, -⟩ := List.cons.inj hname
    exact absurd List.mem_cons_self hmem

/-- Certificate names match as the reference has it, unless a wildcard stands before the leading
dot of the server name. -/
theorem certCoversHostname_iff (sni : String) (sans : List String) :
    (certCoversHostname sni sans = true ↔ NameCovered (wireHost sni.toList) sans) ↔
      ¬EmptyLabelCovered (wireHost sni.toList) sans := by
  cases hip : parseIpAddr (wireHost sni.toList) with
  | some ip =>
    rw [certCoversHostname_of_ip sans hip]
    unfold NameCovered EmptyLabelCovered
    simp [hip]
  | none =>
    rw [certCoversHostname_of_name sans hip]
    unfold NameCovered EmptyLabelCovered
    constructor
    · rintro hcovered ⟨-, ⟨san, hsan, hdot⟩, hnone⟩
      rcases hcovered.mp ⟨san, hsan, Or.inr hdot⟩ with ⟨ip, h, -⟩ | ⟨-, other, hother, hmatch⟩
      · rw [hip] at h
        cases h
      · exact hnone other hother (not_matches_of_wildcardBeforeDot hdot hmatch)
    · intro hempty
      constructor
      · rintro ⟨san, hsan, hmatch | hdot⟩
        · exact Or.inr ⟨hip, san, hsan, hmatch⟩
        · by_contra hnone
          refine hempty ⟨hip, ⟨san, hsan, hdot⟩, fun other hother hsame => hnone ?_⟩
          exact Or.inr ⟨hip, other, hother, Or.inl hsame⟩
      · rintro (⟨ip, h, -⟩ | ⟨-, san, hsan, hmatch⟩)
        · rw [hip] at h
          cases h
        · exact ⟨san, hsan, Or.inl hmatch⟩

/-- The wildcard covers a name whose first label is empty. -/
theorem wildcard_covers_dot : ¬(certCoversHostname ".example.com" ["*.example.com"] = true ↔
    NameCovered (wireHost ".example.com".toList) ["*.example.com"]) := by
  intro h
  have hdot : WildcardBeforeDot "*.example.com".toList (wireHost ".example.com".toList) :=
    ⟨"example.com".toList, "example.com".toList, by decide, by decide, rfl⟩
  have hip : parseIpAddr (wireHost ".example.com".toList) = none := by decide +kernel
  rcases h.mp (by decide +kernel) with ⟨ip, hsome, -⟩ | ⟨-, san, hsan, hmatch⟩
  · rw [hip] at hsome
    cases hsome
  · obtain rfl : san = "*.example.com" := by simpa using hsan
    have hsame := not_matches_of_wildcardBeforeDot hdot hmatch
    revert hsame
    unfold SameName
    decide

end IpTools

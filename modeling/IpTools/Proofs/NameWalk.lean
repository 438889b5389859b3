import IpTools.Proofs.MessageSafety

/-!
# Names on the wire

The name that starts at a position of a message, whatever bytes its labels are of. The three name
parsers accept exactly such names, up to a number of pointers that each of them sets.
-/

namespace IpTools

/-- The name at a position: its labels, the pointers it goes through and where it ends in place. -/
inductive NameWalk (bytes : List UInt8) : Nat → List (List UInt8) → Nat → Nat → Prop
  | root {pos : Nat} (h : bytes[pos]? = some 0) : NameWalk bytes pos [] 0 (pos + 1)
  | label {pos : Nat} {b : UInt8} {text : List UInt8} {labels : List (List UInt8)}
      {hops ending : Nat} (hb : bytes[pos]? = some b) (hne : b ≠ 0) (hshort : b.toNat ≤ 63)
      (htext : slice bytes (pos + 1) (pos + 1 + b.toNat) = .ok text)
      (rest : NameWalk bytes (pos + 1 + b.toNat) labels hops ending) :
      NameWalk bytes pos (text :: labels) hops ending
  | pointer {pos : Nat} {b low : UInt8} {labels : List (List UInt8)} {hops ending : Nat}
      (hb : bytes[pos]? = some b) (hlow : bytes[pos + 1]? = some low)
      (hpointer : isPointer b = true)
      (target : NameWalk bytes (pointerTarget b low) labels hops ending) :
      NameWalk bytes pos labels (hops + 1) (pos + 2)

/-- No length byte of a label is a pointer. -/
lemma isPointer_of_le {b : UInt8} (h : b.toNat ≤ 63) : isPointer b = false := by
  have hkey : ∀ n < 256, n ≤ 63 → isPointer (UInt8.ofNat n) = false := by decide +kernel
  have hb := hkey b.toNat b.toNat_lt h
  rwa [UInt8.ofNat_toNat] at hb

lemma ne_zero_of_isPointer {b : UInt8} (h : isPointer b = true) : b ≠ 0 := by
  rintro rfl
  exact absurd h (by decide)

lemma slice_bounds {bytes chunk : List UInt8} {start ending : Nat}
    (h : slice bytes start ending = .ok chunk) : start ≤ ending ∧ ending ≤ bytes.length := by
  unfold slice at h
  split at h
  · assumption
  · cases h

variable {bytes : List UInt8} {pos hops ending : Nat} {labels : List (List UInt8)}

lemma NameWalk.lt (h : NameWalk bytes pos labels hops ending) : pos < bytes.length := by
  cases h with
  | root h => exact (List.getElem?_eq_some_iff.mp h).1
  | label hb => exact (List.getElem?_eq_some_iff.mp hb).1
  | pointer hb => exact (List.getElem?_eq_some_iff.mp hb).1

lemma NameWalk.lt_ending (h : NameWalk bytes pos labels hops ending) : pos < ending := by
  induction h with
  | root => omega
  | label _ _ _ _ _ ih => omega
  | pointer => omega

lemma NameWalk.ending_le (h : NameWalk bytes pos labels hops ending) : ending ≤ bytes.length := by
  induction h with
  | root h => exact (List.getElem?_eq_some_iff.mp h).1
  | label _ _ _ _ _ ih => exact ih
  | pointer _ hlow => exact (List.getElem?_eq_some_iff.mp hlow).1

/-- A message has at most one name at a position. -/
theorem NameWalk.unique (h : NameWalk bytes pos labels hops ending)
    {labels' : List (List UInt8)} {hops' ending' : Nat}
    (h' : NameWalk bytes pos labels' hops' ending') :
    labels = labels' ∧ hops = hops' ∧ ending = ending' := by
  induction h generalizing labels' hops' ending' with
  | root hb =>
    cases h' with
    | root => exact ⟨rfl, rfl, rfl⟩
    | label hb' hne => exact absurd (Option.some.inj (hb'.symm.trans hb)) hne
    | pointer hb' _ hpointer =>
      exact absurd (Option.some.inj (hb'.symm.trans hb)) (ne_zero_of_isPointer hpointer)
  | label hb hne hshort htext rest ih =>
    cases h' with
    | root hb' => exact absurd (Option.some.inj (hb.symm.trans hb')) hne
    | label hb' _ _ htext' rest' =>
      obtain rfl := Option.some.inj (hb.symm.trans hb')
      obtain rfl := Except.ok.inj (htext.symm.trans htext')
      obtain ⟨rfl, rfl, rfl⟩ := ih rest'
      exact ⟨rfl, rfl, rfl⟩
    | pointer hb' _ hpointer =>
      obtain rfl := Option.some.inj (hb.symm.trans hb')
      exact absurd hpointer (by simp [isPointer_of_le hshort])
  | pointer hb hlow hpointer target ih =>
    cases h' with
    | root hb' =>
      exact absurd (Option.some.inj (hb.symm.trans hb')) (ne_zero_of_isPointer hpointer)
    | label hb' _ hshort =>
      obtain rfl := Option.some.inj (hb.symm.trans hb')
      exact absurd hpointer (by simp [isPointer_of_le hshort])
    | pointer hb' hlow' _ target' =>
      obtain rfl := Option.some.inj (hb.symm.trans hb')
      obtain rfl := Option.some.inj (hlow.symm.trans hlow')
      obtain ⟨rfl, rfl, -⟩ := ih target'
      exact ⟨rfl, rfl, rfl⟩

lemma readNameLoop_walk (h : NameWalk bytes pos labels hops ending) {before : Nat}
    (hhops : before + hops ≤ 8) (acc : List String) (ended : Option Nat) :
    readNameLoop bytes pos before acc ended =
      .ok (acc ++ labels.map fromUtf8Lossy, ended.getD ending) := by
  induction h generalizing before acc ended with
  | root h =>
    rw [readNameLoop, if_neg (by omega), h]
    dsimp only
    rw [if_pos rfl, List.map_nil, List.append_nil]
  | label hb hne hshort htext rest ih =>
    have hbounds := slice_bounds htext
    rw [readNameLoop, if_neg (by omega), hb]
    dsimp only
    rw [if_neg hne, if_neg (by simp [isPointer_of_le hshort]), if_neg (by omega),
      if_neg (by omega), htext]
    dsimp only
    rw [ih hhops, List.append_assoc]
    rfl
  | pointer hb hlow hpointer target ih =>
    rw [readNameLoop, if_neg (by omega), hb]
    dsimp only
    rw [if_neg (ne_zero_of_isPointer hpointer), if_pos hpointer, hlow]
    dsimp only
    rw [if_neg (Nat.not_le.mpr target.lt), ih (by omega)]
    rfl

lemma validateName_walk (h : NameWalk bytes pos labels hops ending) {depth : Nat}
    (hhops : depth + hops ≤ 8) : validateName bytes pos depth = .ok () := by
  induction h generalizing depth with
  | root h =>
    rw [validateName, if_neg (by omega), h]
    rfl
  | label hb hne hshort htext rest ih =>
    have hbounds := slice_bounds htext
    rw [validateName, if_neg (by omega), hb]
    dsimp only
    rw [if_neg hne, if_neg (by simp [isPointer_of_le hshort]), if_neg (by omega),
      if_neg (by omega), ih hhops]
  | pointer hb hlow hpointer target ih =>
    rw [validateName, if_neg (by omega), hb]
    dsimp only
    rw [if_neg (ne_zero_of_isPointer hpointer), if_pos hpointer, hlow]
    dsimp only
    rw [if_neg (Nat.not_le.mpr target.lt), ih (by omega)]

lemma skipName_walk (h : NameWalk bytes pos labels hops ending) (hhops : hops ≤ 9) :
    skipName bytes pos = .ok ending := by
  induction h with
  | root h =>
    rw [skipName, h]
    rfl
  | label hb hne hshort htext rest ih =>
    have hbounds := slice_bounds htext
    rw [skipName, hb]
    dsimp only
    rw [if_neg hne, if_neg (by simp [isPointer_of_le hshort]), if_neg (by omega),
      if_neg (by omega), ih hhops]
  | pointer hb hlow hpointer target ih =>
    rw [skipName, hb]
    dsimp only
    rw [if_neg (ne_zero_of_isPointer hpointer), if_pos hpointer, hlow]
    dsimp only
    rw [if_neg (Nat.not_le.mpr target.lt), validateName_walk target (by omega)]

lemma exists_walk_of_readNameLoop {before : Nat} {acc out : List String} {ended : Option Nat}
    {finish : Nat} (h : readNameLoop bytes pos before acc ended = .ok (out, finish)) :
    ∃ labels hops ending, NameWalk bytes pos labels hops ending ∧ before + hops ≤ 8 := by
  fun_induction readNameLoop bytes pos before acc ended with
  | case1 | case2 | case4 | case5 | case7 | case8 => cases h
  | case3 pos before acc ended hhops hb => exact ⟨[], 0, _, .root hb, by omega⟩
  | case6 pos before acc ended hhops b hb hne hpointer low hlow htarget ih =>
    obtain ⟨labels, hops, ending, hwalk, hsum⟩ := ih h
    exact ⟨labels, hops + 1, _, .pointer hb hlow hpointer hwalk, by omega⟩
  | case9 => cases h
  | case10 pos before acc ended hhops b hb hne hpointer hshort hend text htext ih =>
    obtain ⟨labels, hops, ending, hwalk, hsum⟩ := ih h
    exact ⟨text :: labels, hops, ending, .label hb hne (by omega) htext hwalk, hsum⟩

lemma exists_walk_of_validateName {depth : Nat} (h : validateName bytes pos depth = .ok ()) :
    ∃ labels hops ending, NameWalk bytes pos labels hops ending ∧ depth + hops ≤ 8 := by
  fun_induction validateName bytes pos depth with
  | case1 | case2 | case4 | case5 | case7 | case8 => cases h
  | case3 pos depth hdepth hb => exact ⟨[], 0, _, .root hb, by omega⟩
  | case6 pos depth hdepth b hb hne hpointer low hlow htarget ih =>
    obtain ⟨labels, hops, ending, hwalk, hsum⟩ := ih h
    exact ⟨labels, hops + 1, _, .pointer hb hlow hpointer hwalk, by omega⟩
  | case9 pos depth hdepth b hb hne hpointer hshort hend ih =>
    obtain ⟨labels, hops, ending, hwalk, hsum⟩ := ih h
    have htext := slice_eq (Nat.le_add_right (pos + 1) b.toNat) (Nat.not_lt.mp hend)
    exact ⟨_ :: labels, hops, ending, .label hb hne (by omega) htext hwalk, hsum⟩

lemma exists_walk_of_skipName {finish : Nat} (h : skipName bytes pos = .ok finish) :
    ∃ labels hops ending, NameWalk bytes pos labels hops ending ∧ hops ≤ 9 := by
  fun_induction skipName bytes pos with
  | case1 | case3 | case4 | case5 | case7 | case8 => cases h
  | case2 pos hb => exact ⟨[], 0, _, .root hb, by omega⟩
  | case6 pos b hb hne hpointer low hlow htarget hvalidate =>
    obtain ⟨labels, hops, ending, hwalk, hsum⟩ := exists_walk_of_validateName hvalidate
    exact ⟨labels, hops + 1, _, .pointer hb hlow hpointer hwalk, by omega⟩
  | case9 pos b hb hne hpointer hshort hend ih =>
    obtain ⟨labels, hops, ending, hwalk, hsum⟩ := ih h
    have htext := slice_eq (Nat.le_add_right (pos + 1) b.toNat) (Nat.not_lt.mp hend)
    exact ⟨_ :: labels, hops, ending, .label hb hne (by omega) htext hwalk, hsum⟩

/-- The reading parser accepts the names of at most 8 pointers. -/
theorem readName_eq_ok_iff {name : String} {finish : Nat} :
    readName bytes pos = .ok (name, finish) ↔
      ∃ labels hops, NameWalk bytes pos labels hops finish ∧ hops ≤ 8 ∧
        name = dotted (labels.map fromUtf8Lossy) := by
  constructor
  · intro h
    unfold readName at h
    cases hloop : readNameLoop bytes pos 0 [] none with
    | error e =>
      rw [hloop] at h
      cases h
    | ok r =>
      obtain ⟨labels, hops, ending, hwalk, hhops⟩ := exists_walk_of_readNameLoop hloop
      rw [readNameLoop_walk hwalk hhops, ok_bind] at h
      cases h
      exact ⟨labels, hops, hwalk, by omega, rfl⟩
  · rintro ⟨labels, hops, hwalk, hhops, rfl⟩
    rw [readName, readNameLoop_walk hwalk (by omega), ok_bind]
    rfl

/-- The skipping parser accepts the names of at most 9 pointers. -/
theorem skipName_eq_ok_iff {finish : Nat} :
    skipName bytes pos = .ok finish ↔
      ∃ labels hops, NameWalk bytes pos labels hops finish ∧ hops ≤ 9 := by
  constructor
  · intro h
    obtain ⟨labels, hops, ending, hwalk, hhops⟩ := exists_walk_of_skipName h
    rw [skipName_walk hwalk hhops] at h
    cases h
    exact ⟨labels, hops, hwalk, hhops⟩
  · rintro ⟨labels, hops, hwalk, hhops⟩
    exact skipName_walk hwalk hhops

/-- The skipping parser accepts what the reading parser does and ends where it does. -/
def NameParsersAgree (bytes : List UInt8) (start : Nat) : Prop :=
  ∀ ending, skipName bytes start = .ok ending ↔ ∃ name, readName bytes start = .ok (name, ending)

/-- A name of nine pointers: one more than the reading parser follows, and as many as the skipping
parser follows, which does not count the first. -/
def NinePointers (bytes : List UInt8) (start : Nat) : Prop :=
  ∃ labels ending, NameWalk bytes start labels 9 ending

theorem nameParsers_agree_iff (bytes : List UInt8) (start : Nat) :
    NameParsersAgree bytes start ↔ ¬NinePointers bytes start := by
  constructor
  · rintro h ⟨labels, ending, hwalk⟩
    obtain ⟨name, hname⟩ := (h ending).mp (skipName_eq_ok_iff.mpr ⟨labels, 9, hwalk, by omega⟩)
    obtain ⟨labels', hops, hwalk', hhops, -⟩ := readName_eq_ok_iff.mp hname
    have hsame := (hwalk.unique hwalk').2.1
    omega
  · intro h ending
    constructor
    · intro hskip
      obtain ⟨labels, hops, hwalk, hhops⟩ := skipName_eq_ok_iff.mp hskip
      have hne : hops ≠ 9 := by
        rintro rfl
        exact h ⟨labels, ending, hwalk⟩
      exact ⟨_, readName_eq_ok_iff.mpr ⟨labels, hops, hwalk, by omega, rfl⟩⟩
    · rintro ⟨name, hname⟩
      obtain ⟨labels, hops, hwalk, hhops, -⟩ := readName_eq_ok_iff.mp hname
      exact skipName_eq_ok_iff.mpr ⟨labels, hops, hwalk, by omega⟩

/-- The root, and nine pointers each to the one before. -/
def nineHops : List UInt8 :=
  [0, 0xc0, 0, 0xc0, 1, 0xc0, 3, 0xc0, 5, 0xc0, 7, 0xc0, 9, 0xc0, 11, 0xc0, 13, 0xc0, 15]

/-- The last of the pointers is skipped as a name, and read as none. -/
theorem nine_pointers_disagree :
    skipName nineHops 17 = .ok 19 ∧ (∀ r, readName nineHops 17 ≠ .ok r) ∧
      ¬NameParsersAgree nineHops 17 := by
  have hroot : NameWalk nineHops 0 [] 0 1 := .root rfl
  have hthree : NameWalk nineHops 5 [] 3 7 :=
    .pointer rfl rfl rfl (.pointer rfl rfl rfl (.pointer rfl rfl rfl hroot))
  have hsix : NameWalk nineHops 11 [] 6 13 :=
    .pointer rfl rfl rfl (.pointer rfl rfl rfl (.pointer rfl rfl rfl hthree))
  have hnine : NameWalk nineHops 17 [] 9 19 :=
    .pointer rfl rfl rfl (.pointer rfl rfl rfl (.pointer rfl rfl rfl hsix))
  have hskip : skipName nineHops 17 = .ok 19 := skipName_walk hnine (by omega)
  have hread : ∀ r, readName nineHops 17 ≠ .ok r := by
    rintro ⟨name, ending⟩ hname
    obtain ⟨labels, hops, hwalk, hhops, -⟩ := readName_eq_ok_iff.mp hname
    have hsame := (hnine.unique hwalk).2.1
    omega
  refine ⟨hskip, hread, fun h => ?_⟩
  obtain ⟨name, hname⟩ := (h 19).mp hskip
  exact hread _ hname

end IpTools

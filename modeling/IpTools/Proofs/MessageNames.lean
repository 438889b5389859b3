import IpTools.Dns.Encoder
import IpTools.Library.ByteBits
import IpTools.Library.Placement
import IpTools.Proofs.NameWalk

/-!
# Names that the encoder writes

The three name parsers on a name that stands in a message: they all follow its labels and pointers
to the same end.
-/

namespace IpTools

open Placement

lemma isPointer_ofNat {n : Nat} (h : n < 2 ^ 6) : isPointer (UInt8.ofNat (0xc0 + n)) = true := by
  have hkey : ∀ n < 64, isPointer (UInt8.ofNat (0xc0 + n)) = true := by decide +kernel
  exact hkey n h

lemma and_mask_ofNat {n : Nat} (h : n < 2 ^ 6) :
    (UInt8.ofNat (0xc0 + n) &&& 0x3f).toNat = n := by
  have hkey : ∀ n < 64, (UInt8.ofNat (0xc0 + n) &&& 0x3f).toNat = n := by decide +kernel
  exact hkey n h

lemma pointerTarget_bytes {target : Nat} (h : target < 2 ^ 14) :
    pointerTarget (UInt8.ofNat (0xc0 + target / 2 ^ 8)) (UInt8.ofNat target) = target := by
  have hlow : (UInt8.ofNat target).toNat = target % 2 ^ 8 := UInt8.toNat_ofNat
  rw [pointerTarget, and_mask_ofNat (by omega), hlow]
  omega

/-- The name at a position: its labels, the pointers it goes through and where it ends. -/
inductive NameAt (bytes : List UInt8) : Nat → List Label → Nat → Nat → Prop
  | root {pos : Nat} (h : bytes[pos]? = some 0) : NameAt bytes pos [] 0 (pos + 1)
  | label {pos : Nat} {l : Label} {labels : List Label} {hops ending : Nat}
      (h : At bytes pos l.bytes)
      (rest : NameAt bytes (pos + l.bytes.length) labels hops ending) :
      NameAt bytes pos (l :: labels) hops ending
  | pointer {pos : Nat} {b low : UInt8} {labels : List Label} {hops ending : Nat}
      (hb : bytes[pos]? = some b) (hlow : bytes[pos + 1]? = some low)
      (hpointer : isPointer b = true)
      (target : NameAt bytes (pointerTarget b low) labels hops ending) :
      NameAt bytes pos labels (hops + 1) (pos + 2)

/-- What the encoder writes is a name, with the texts of its labels in UTF-8. -/
lemma NameAt.walk {bytes : List UInt8} {pos hops ending : Nat} {labels : List Label}
    (h : NameAt bytes pos labels hops ending) :
    NameWalk bytes pos (labels.map (fun l => Utf8.encode l.text)) hops ending := by
  induction h with
  | root h => exact .root h
  | @label pos l labels hops ending h rest ih =>
    have hle := h.length_le
    obtain ⟨hget, htext⟩ := at_cons_iff.mp h
    have hnonempty := l.nonempty
    have hshort := l.short
    have hb : (UInt8.ofNat (Utf8.encode l.text).length).toNat = (Utf8.encode l.text).length :=
      ByteBits.toNat_ofNat (by omega)
    have hlength : l.bytes.length = (Utf8.encode l.text).length + 1 := rfl
    have hnext : pos + 1 + (Utf8.encode l.text).length = pos + l.bytes.length := by omega
    refine .label hget ?_ (by omega) ?_ ?_
    · intro hzero
      rw [hzero] at hb
      have hnat : (0 : UInt8).toNat = 0 := rfl
      omega
    · rw [slice_eq (by omega) (by omega), hb, Nat.add_sub_cancel_left, htext.take_drop]
    · rw [hb, hnext]
      exact ih
  | pointer hb hlow hpointer target ih => exact .pointer hb hlow hpointer ih

theorem skipName_nameAt {bytes : List UInt8} {pos hops ending : Nat} {labels : List Label}
    (h : NameAt bytes pos labels hops ending) (hhops : hops ≤ 8) :
    skipName bytes pos = .ok ending := skipName_walk h.walk (by omega)

lemma dotted_labels (labels : List Label) :
    dotted ((labels.map (fun l => Utf8.encode l.text)).map fromUtf8Lossy) = nameText labels := by
  have htext : (labels.map (fun l => Utf8.encode l.text)).map fromUtf8Lossy =
      labels.map (fun l => String.ofList l.text) := by
    rw [List.map_map]
    apply List.map_congr_left
    intro l _
    exact congrArg String.ofList (Utf8.decodeLossy_encode l.text)
  rw [htext]
  cases labels <;> rfl

theorem readName_nameAt {bytes : List UInt8} {pos hops ending : Nat} {labels : List Label}
    (h : NameAt bytes pos labels hops ending) (hhops : hops ≤ 8) :
    readName bytes pos = .ok (nameText labels, ending) :=
  readName_eq_ok_iff.mpr ⟨_, hops, h.walk, hhops, (dotted_labels labels).symm⟩

/-- The starts of a message spell what is noted of them. -/
def StartsHold (bytes : List UInt8) (starts : List NameStart) : Prop :=
  ∀ s ∈ starts, ∃ ending, NameAt bytes s.pos s.labels s.hops ending

section Encoded

variable {bytes : List UInt8} {starts : List NameStart}

/-- An encoded name stands in the message, as do the rests of it. -/
lemma nameAt_starts {pointer : Option NameStart}
    (hpointer : ∀ p, pointer = some p → p.pos < 2 ^ 14 ∧
      ∃ ending, NameAt bytes p.pos p.labels p.hops ending)
    (own : List Label) {pos : Nat} (h : At bytes pos (WireName.mk own pointer).bytes) :
    NameAt bytes pos (WireName.mk own pointer).labels (WireName.mk own pointer).hops
        (pos + (WireName.mk own pointer).bytes.length) ∧
      StartsHold bytes (nameStarts pointer own pos) := by
  induction own generalizing pos with
  | nil =>
    have hname : NameAt bytes pos (WireName.mk [] pointer).labels (WireName.mk [] pointer).hops
        (pos + (WireName.mk [] pointer).bytes.length) := by
      cases pointer with
      | none => exact .root (at_cons_iff.mp h).1
      | some p =>
        obtain ⟨hlt, ending, htarget⟩ := hpointer p rfl
        obtain ⟨hb, hrest⟩ := at_cons_iff.mp h
        rw [← pointerTarget_bytes hlt] at htarget
        exact .pointer hb (at_cons_iff.mp hrest).1 (isPointer_ofNat (by omega)) htarget
    refine ⟨hname, fun s hs => ?_⟩
    rw [nameStarts, List.mem_singleton] at hs
    subst hs
    exact ⟨_, hname⟩
  | cons l own ih =>
    have hbytes : (WireName.mk (l :: own) pointer).bytes =
        l.bytes ++ (WireName.mk own pointer).bytes := by
      unfold WireName.bytes
      rw [List.flatMap_cons, List.append_assoc]
    rw [hbytes, at_append_iff] at h
    obtain ⟨hrest, hstarts⟩ := ih h.2
    have hname : NameAt bytes pos (WireName.mk (l :: own) pointer).labels
        (WireName.mk (l :: own) pointer).hops
        (pos + (WireName.mk (l :: own) pointer).bytes.length) := by
      rw [hbytes, List.length_append, ← Nat.add_assoc]
      exact .label h.1 hrest
    refine ⟨hname, fun s hs => ?_⟩
    rw [nameStarts] at hs
    rcases List.mem_cons.mp hs with rfl | hs
    · exact ⟨_, hname⟩
    · exact hstarts s hs

/-- A name that fits is read and skipped as what it says. -/
lemma WireName.nameAt {w : WireName} (hfits : w.Fits starts) (hstarts : StartsHold bytes starts)
    {pos : Nat} (h : At bytes pos w.bytes) :
    NameAt bytes pos w.labels w.hops (pos + w.bytes.length) ∧ w.hops ≤ 8 ∧
      StartsHold bytes (starts ++ w.starts pos) := by
  obtain ⟨own, pointer⟩ := w
  have hpointer : ∀ p, pointer = some p → p.pos < 2 ^ 14 ∧
      ∃ ending, NameAt bytes p.pos p.labels p.hops ending := by
    intro p hp
    obtain ⟨hmem, hlt, -⟩ := hfits p hp
    exact ⟨hlt, hstarts p hmem⟩
  obtain ⟨hname, hown⟩ := nameAt_starts hpointer own h
  refine ⟨hname, ?_, ?_⟩
  · cases pointer with
    | none => exact Nat.zero_le _
    | some p => exact (hfits p rfl).2.2
  · intro s hs
    rcases List.mem_append.mp hs with hs | hs
    · exact hstarts s hs
    · exact hown s hs

end Encoded

end IpTools

import IpTools.Library.CharClass
import Mathlib.Data.List.Forall2
import Mathlib.Data.List.TakeWhile

/-!
# Texts with SGR sequences

The sequences that colour a text on a terminal can be removed from it. A text that only colours
another one is that text without them, and the two stay related when texts are put together.
-/

namespace Sgr

open CharClass

def isParameter (c : Char) : Bool := c.isDigit || c = ';' || c = ':'

/-- The text after the SGR sequence that another one starts with. -/
def skip : List Char → Option (List Char)
  | '\x1b' :: '[' :: rest =>
    match rest.dropWhile isParameter with
    | 'm' :: rest => some rest
    | _ => none
  | _ => none

lemma length_skip {s t : List Char} (h : skip s = some t) : t.length < s.length := by
  unfold skip at h
  split at h
  · rename_i rest
    split at h
    · rename_i rest' hrest
      cases h
      have hle := List.length_dropWhile_le isParameter rest
      rw [hrest] at hle
      simp only [List.length_cons] at hle ⊢
      omega
    · cases h
  · cases h

/-- The text without its SGR sequences. -/
def strip : List Char → List Char
  | [] => []
  | c :: s =>
    match _h : skip (c :: s) with
    | some t => strip t
    | none => c :: strip s
termination_by s => s.length
decreasing_by
  · exact length_skip _h
  · exact Nat.lt_succ_self _

lemma strip_of_skip {c : Char} {s t : List Char} (h : skip (c :: s) = some t) :
    strip (c :: s) = strip t := by
  rw [strip]
  split
  · rename_i t' h'
    rw [Option.some.inj (h.symm.trans h')]
  · rename_i h'
    rw [h] at h'
    cases h'

lemma strip_of_skip_eq_none {c : Char} {s : List Char} (h : skip (c :: s) = none) :
    strip (c :: s) = c :: strip s := by
  rw [strip]
  split
  · rename_i t h'
    rw [h] at h'
    cases h'
  · rfl

lemma strip_cons_of_ne {c : Char} (hc : c ≠ '\x1b') (s : List Char) :
    strip (c :: s) = c :: strip s := by
  apply strip_of_skip_eq_none
  unfold skip
  split
  · rename_i h
    exact absurd (List.cons.inj h).1 hc
  · rfl

lemma strip_sgr {parameters : List Char} (h : ∀ c ∈ parameters, isParameter c = true)
    (rest : List Char) :
    strip ('\x1b' :: '[' :: (parameters ++ 'm' :: rest)) = strip rest := by
  apply strip_of_skip
  rw [skip, List.dropWhile_append_of_pos h]
  rfl

/-- The first text is the second one with SGR sequences in it, wherever it stands. -/
def Strips (x y : String) : Prop := ∀ rest, strip (x.toList ++ rest) = y.toList ++ strip rest

lemma strip_nil : strip [] = [] := by rw [strip]

theorem Strips.strip_eq {x y : String} (h : Strips x y) : strip x.toList = y.toList := by
  have hend := h []
  rwa [List.append_nil, strip_nil, List.append_nil] at hend

/-- Texts without an escape character. -/
abbrev NoEscape (s : String) : Prop := All (fun c => c ≠ '\x1b') s

lemma strips_self {s : String} (h : NoEscape s) : Strips s s := by
  intro rest
  unfold NoEscape All at h
  generalize s.toList = l at h ⊢
  induction l with
  | nil => rfl
  | cons c l ih =>
    rw [List.cons_append, strip_cons_of_ne (h c List.mem_cons_self),
      ih (fun d hd => h d (List.mem_cons_of_mem c hd))]
    rfl

lemma Strips.append {x y x' y' : String} (h : Strips x y) (h' : Strips x' y') :
    Strips (x ++ x') (y ++ y') := by
  intro rest
  rw [String.toList_append, String.toList_append, List.append_assoc, List.append_assoc, h, h']

lemma strips_sequence {parameters : String} (h : All (fun c => isParameter c = true) parameters) :
    Strips ("\x1b[" ++ parameters ++ "m") "" := by
  intro rest
  rw [String.toList_append, String.toList_append, List.append_assoc, List.append_assoc]
  exact strip_sgr h rest

lemma strips_intercalate {sep : String} {l l' : List String} (hsep : NoEscape sep)
    (h : List.Forall₂ Strips l l') : Strips (sep.intercalate l) (sep.intercalate l') := by
  induction h with
  | nil => exact strips_self (show NoEscape "" by decide)
  | @cons a b l l' hab hll ih =>
    cases hll with
    | nil => exact hab
    | cons hcd htail =>
      rw [String.intercalate_cons_cons, String.intercalate_cons_cons]
      exact (hab.append (strips_self hsep)).append ih

lemma strips_join {l l' : List String} (h : List.Forall₂ Strips l l') :
    Strips (String.join l) (String.join l') := by
  induction h with
  | nil => exact strips_self (show NoEscape "" by decide)
  | cons hab hll ih =>
    rw [String.join_cons, String.join_cons]
    exact hab.append ih

end Sgr

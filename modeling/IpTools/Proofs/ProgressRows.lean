import IpTools.Cli.Progress
import IpTools.Proofs.Text
import Mathlib.Data.String.Basic
import Mathlib.Logic.Relation

/-!
# The rows of a progress

However the tasks of a sweep interleave, the numbers that they draw are all different, and the last
row shows the completion and nothing else.
-/

namespace IpTools

open Terminal

lemma length_le_utf8Len (s : List Char) : s.length ≤ String.utf8Len s := by
  induction s with
  | nil => exact Nat.le_refl 0
  | cons c s ih =>
    have hpos := c.utf8Size_pos
    rw [List.length_cons, String.utf8Len_cons]
    omega

lemma length_le_utf8ByteSize (s : String) : s.toList.length ≤ s.utf8ByteSize := by
  have hbytes := String.utf8ByteSize_ofList s.toList
  rw [String.ofList_toList] at hbytes
  rw [hbytes]
  exact length_le_utf8Len s.toList

/-- The numbers that the tasks have counted. -/
def Sweep.counts (s : Sweep) : List Nat :=
  s.counted.map Prod.fst ++ s.widened.map Prod.fst ++ s.drawn

/-- What every step of a shown progress keeps. -/
structure Sweep.Kept (units tasks : Nat) (s : Sweep) : Prop where
  shown : s.progress.shown = true
  total : s.progress.total = units
  within : s.screen.Within s.progress.maxLine
  fits : ∀ e ∈ s.widened, (stepLine e.1 units e.2).toList.length ≤ s.progress.maxLine
  counts : s.counts.Perm (List.range' 1 s.progress.done)
  tasks : s.waiting.length + s.progress.done = tasks

lemma Sweep.Kept.step {units tasks : Nat} {s s' : Sweep} (h : s.Kept units tasks)
    (hstep : SweepStep s s') : s'.Kept units tasks := by
  have hshown := h.shown
  have htotal := h.total
  have hwithin := h.within
  have hcounts := h.counts
  have htasks := h.tasks
  cases hstep with
  | skip hhidden hlabel =>
    rw [hshown] at hhidden
    cases hhidden
  | @count label before after _ hlabel =>
    rw [hlabel, List.length_append, List.length_cons] at htasks
    refine ⟨hshown, htotal, hwithin, h.fits, ?_, ?_⟩
    · have hrange : List.range' 1 (s.progress.done + 1) =
          List.range' 1 s.progress.done ++ [s.progress.done + 1] := by
        rw [List.range'_concat, Nat.one_mul, Nat.add_comm 1]
      refine (List.Perm.cons (s.progress.done + 1) hcounts).trans ?_
      dsimp only
      rw [hrange]
      exact (List.perm_append_singleton _ _).symm
    · dsimp only
      rw [List.length_append]
      omega
  | @widen n label before after hcounted =>
    have hline : (stepLine n units label).toList.length ≤
        max s.progress.maxLine (stepLine n s.progress.total label).utf8ByteSize := by
      rw [htotal]
      exact Nat.le_trans (length_le_utf8ByteSize _) (Nat.le_max_right _ _)
    refine ⟨hshown, htotal, hwithin.mono (Nat.le_max_left _ _), ?_, ?_, htasks⟩
    · intro e he
      rcases List.mem_cons.mp he with rfl | he
      · exact hline
      · exact Nat.le_trans (h.fits e he) (Nat.le_max_left _ _)
    · refine List.Perm.trans (List.perm_iff_count.mpr (fun a => ?_)) hcounts
      unfold Sweep.counts
      rw [hcounted]
      simp only [List.map_append, List.map_cons, List.count_append, List.count_cons]
      omega
  | @draw n label before after hwidened =>
    have hfits := h.fits (n, label) (by rw [hwidened]; simp)
    rw [← htotal] at hfits
    refine ⟨hshown, htotal, ?_, ?_, ?_, htasks⟩
    · have hreturn : (s.screen.put '\r').Within s.progress.maxLine := ⟨hwithin.row, Nat.zero_le _⟩
      exact hreturn.write (by rw [Screen.put_return, Nat.zero_add]; exact hfits)
    · intro e he
      refine h.fits e ?_
      rw [hwidened]
      rcases List.mem_append.mp he with he | he
      · exact List.mem_append_left _ he
      · exact List.mem_append_right _ (List.mem_cons_of_mem _ he)
    · refine List.Perm.trans (List.perm_iff_count.mpr (fun a => ?_)) hcounts
      unfold Sweep.counts
      rw [hwidened]
      simp only [List.map_append, List.map_cons, List.count_append, List.count_cons]
      omega
  | report line =>
    exact ⟨hshown, htotal, (Screen.fresh_writeln _ _).within _, h.fits, hcounts, htasks⟩

/-- What every step of a hidden progress keeps. -/
structure Sweep.Silent (screen : Screen) (s : Sweep) : Prop where
  shown : s.progress.shown = false
  counted : s.counted = []
  widened : s.widened = []
  screen : s.screen = screen.write (s.reports.flatMap (fun line => line.toList ++ ['\n']))

lemma Sweep.Silent.step {screen : Screen} {s s' : Sweep} (h : s.Silent screen)
    (hstep : SweepStep s s') : s'.Silent screen := by
  have hshown := h.shown
  cases hstep with
  | skip hhidden hlabel => exact ⟨hshown, h.counted, h.widened, h.screen⟩
  | count htrue hlabel =>
    rw [hshown] at htrue
    cases htrue
  | widen hcounted =>
    rw [h.counted] at hcounted
    cases (List.append_eq_nil_iff.mp hcounted.symm).2
  | draw hwidened =>
    rw [h.widened] at hwidened
    cases (List.append_eq_nil_iff.mp hwidened.symm).2
  | report line =>
    refine ⟨hshown, h.counted, h.widened, ?_⟩
    dsimp only
    rw [h.screen, List.flatMap_append, List.flatMap_singleton, ← Screen.write_append]

end IpTools

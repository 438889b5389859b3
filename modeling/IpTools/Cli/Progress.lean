import IpTools.Library.Terminal

/-!
# The progress of a sweep

The counter that the tasks of a sweep draw on the terminal. A task counts itself, widens the longest
line and draws its own one, and between any two of these the other tasks go on and other lines are
written.
-/

namespace IpTools

open Terminal

def shouldShow (total : Nat) (noColorFlag noColorEnv stderrTty : Bool) : Bool :=
  1 < total && !noColorFlag && !noColorEnv && stderrTty

structure Progress where
  shown : Bool
  done : Nat
  total : Nat
  /-- The bytes of the longest line so far. -/
  maxLine : Nat
deriving DecidableEq, Repr

def Progress.new (total : Nat) (noColorFlag noColorEnv stderrTty : Bool) : Progress where
  shown := shouldShow total noColorFlag noColorEnv stderrTty
  done := 0
  total
  maxLine := 0

/-- The line of a task, which `step` draws after a carriage return. -/
def stepLine (done total : Nat) (label : String) : String := s!"  {done}/{total} {label}"

/-- The line of `finish`, padded with spaces. -/
def completionLine (done total padTo : Nat) : String :=
  let line := s!"  {done}/{total} complete"
  let pad := padTo - line.utf8ByteSize
  line ++ String.ofList (List.replicate pad ' ')

/-- The terminal of a sweep and its tasks, by how far each one is in `step`. -/
structure Sweep where
  progress : Progress
  screen : Screen
  waiting : List String
  counted : List (Nat × String)
  widened : List (Nat × String)
  drawn : List Nat
  /-- The lines that others have written. -/
  reports : List String
deriving DecidableEq, Repr

def Sweep.start (progress : Progress) (screen : Screen) (labels : List String) : Sweep :=
  ⟨progress, screen, labels, [], [], [], []⟩

inductive SweepStep : Sweep → Sweep → Prop
  /-- `step` of a progress that is not shown. -/
  | skip {s : Sweep} {label : String} {before after : List String} (h : s.progress.shown = false)
      (hlabel : s.waiting = before ++ label :: after) :
      SweepStep s { s with waiting := before ++ after }
  /-- The `fetch_add`. -/
  | count {s : Sweep} {label : String} {before after : List String} (h : s.progress.shown = true)
      (hlabel : s.waiting = before ++ label :: after) :
      SweepStep s { s with
        progress := { s.progress with done := s.progress.done + 1 }
        waiting := before ++ after
        counted := (s.progress.done + 1, label) :: s.counted }
  /-- The `fetch_max`. -/
  | widen {s : Sweep} {n : Nat} {label : String} {before after : List (Nat × String)}
      (hcounted : s.counted = before ++ (n, label) :: after) :
      SweepStep s { s with
        progress := { s.progress with
          maxLine := max s.progress.maxLine (stepLine n s.progress.total label).utf8ByteSize }
        counted := before ++ after
        widened := (n, label) :: s.widened }
  /-- The `eprint!`. -/
  | draw {s : Sweep} {n : Nat} {label : String} {before after : List (Nat × String)}
      (hwidened : s.widened = before ++ (n, label) :: after) :
      SweepStep s { s with
        screen := s.screen.write ('\r' :: (stepLine n s.progress.total label).toList)
        widened := before ++ after
        drawn := n :: s.drawn }
  /-- An `eprintln!` elsewhere. -/
  | report {s : Sweep} (line : String) :
      SweepStep s { s with
        screen := s.screen.write (line.toList ++ ['\n'])
        reports := s.reports ++ [line] }

def Sweep.finish (s : Sweep) : Screen :=
  if s.progress.shown then
    s.screen.write ('\r' :: ((completionLine s.progress.done s.progress.total
      s.progress.maxLine).toList ++ ['\n']))
  else s.screen

end IpTools

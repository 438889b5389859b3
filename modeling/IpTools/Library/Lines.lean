import Mathlib.Data.List.Basic
import Mathlib.Tactic.Common

/-!
# Lines of a text

A text is cut into lines at its line feeds, each with the carriage return before it; what comes
after the last one is a line where it is not empty. Lines that were written one by one are read
back, whichever of the two ends each has.
-/

namespace Lines

/-- The text without a carriage return at its end. -/
def chompReturn (line : List Char) : List Char :=
  if line.getLast? = some '\r' then line.dropLast else line

/-- The lines of a text, the first of which has begun already. -/
def linesFrom (line : List Char) : List Char → List (List Char)
  | [] => if line.isEmpty then [] else [line]
  | c :: rest =>
    if c = '\n' then chompReturn line :: linesFrom [] rest else linesFrom (line ++ [c]) rest

/-- `str::lines`. -/
def lines (s : List Char) : List (List Char) := linesFrom [] s

example : lines "a\r\n\nb\rc\n\rd\r".toList =
    ["a", "", "b\rc", "\rd\r"].map String.toList := by decide

lemma linesFrom_append {body : List Char} (h : '\n' ∉ body) (line rest : List Char) :
    linesFrom line (body ++ rest) = linesFrom (line ++ body) rest := by
  induction body generalizing line with
  | nil => rw [List.nil_append, List.append_nil]
  | cons c body ih =>
    rw [List.mem_cons, not_or] at h
    rw [List.cons_append, linesFrom, if_neg (Ne.symm h.1), ih h.2, List.append_assoc,
      List.singleton_append]

/-- The ends of a line. -/
inductive End where
  | lineFeed
  | returnLineFeed
deriving DecidableEq

def End.text : End → List Char
  | .lineFeed => ['\n']
  | .returnLineFeed => ['\r', '\n']

/-- A text that is one line whatever comes after it. -/
structure IsLine (line : List Char) : Prop where
  noFeed : '\n' ∉ line
  noReturn : line.getLast? ≠ some '\r'

lemma lines_cons {line : List Char} (h : IsLine line) (terminator : End) (rest : List Char) :
    lines (line ++ terminator.text ++ rest) = line :: lines rest := by
  have hchomp : chompReturn line = line := if_neg h.noReturn
  unfold lines
  rw [List.append_assoc, linesFrom_append h.noFeed, List.nil_append]
  cases terminator with
  | lineFeed =>
    rw [show End.text .lineFeed ++ rest = '\n' :: rest from rfl, linesFrom, if_pos rfl, hchomp]
  | returnLineFeed =>
    have hreturn : chompReturn (line ++ ['\r']) = line := by
      unfold chompReturn
      rw [if_pos List.getLast?_concat, List.dropLast_concat]
    rw [show End.text .returnLineFeed ++ rest = '\r' :: '\n' :: rest from rfl, linesFrom,
      if_neg (by decide), linesFrom, if_pos rfl, hreturn]

/-- The text of some lines, each with its end. -/
def write (l : List (List Char × End)) : List Char := l.flatMap (fun e => e.1 ++ e.2.text)

/-- Lines are read back. -/
theorem lines_write {l : List (List Char × End)} (h : ∀ e ∈ l, IsLine e.1) :
    lines (write l) = l.map Prod.fst := by
  induction l with
  | nil => rfl
  | cons e l ih =>
    unfold write
    rw [List.flatMap_cons, lines_cons (h e List.mem_cons_self), List.map_cons]
    exact congrArg _ (ih (fun e' he' => h e' (List.mem_cons_of_mem e he')))

end Lines

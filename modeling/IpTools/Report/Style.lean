import IpTools.Model.Address

/-!
# Terminal styling

Reports are written in rows. A style colours parts of them with SGR sequences, or leaves them as
they are.
-/

namespace IpTools

structure Style where
  color : Bool
deriving DecidableEq, Repr

def Style.plain : Style := ⟨false⟩

def Style.colored : Style := ⟨true⟩

/-- Wrap a text in an SGR code, the identity where the style is plain. -/
def Style.paint (style : Style) (code text : String) : String :=
  if style.color then "\x1b[" ++ code ++ "m" ++ text ++ "\x1b[0m" else text

def Style.pass (style : Style) (text : String) : String := style.paint "32" text

def Style.fail (style : Style) (text : String) : String := style.paint "31" text

def Style.warn (style : Style) (text : String) : String := style.paint "33" text

def Style.info (style : Style) (text : String) : String := style.paint "36" text

/-- A text that is filled up with spaces: `{:<width}`. -/
def padRight (width : Nat) (s : String) : String :=
  s ++ String.ofList (List.replicate (width - s.length) ' ')

/-- `{:>width}`. -/
def padLeft (width : Nat) (s : String) : String :=
  String.ofList (List.replicate (width - s.length) ' ') ++ s

/-- The rows of a report, each with the newline that ends it. -/
def unlines (rows : List String) : String := String.join (rows.map (· ++ "\n"))

/-- `N ms` where a latency was measured, a bare `-` where it was not. -/
def msOrDash (ms : Option UInt64) : String :=
  match ms with
  | some n => toString n.toNat ++ " ms"
  | none => "-"

/-- The number or a bare `-`. -/
def fmt (v : Option UInt64) : String :=
  match v with
  | some n => toString n.toNat
  | none => "-"

/-- `str::to_uppercase` of a text that is ASCII. -/
def toUppercase (s : String) : String := String.ofList (s.toList.map Char.toUpper)

end IpTools

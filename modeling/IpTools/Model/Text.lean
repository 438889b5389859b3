import IpTools.Model.Address

/-!
# Text

The operations of `str` that the parsers and formatters are written with, on the characters of
the text.
-/

namespace IpTools

/-- `char::is_whitespace`: the characters with the property `White_Space`. -/
def isWhitespace (c : Char) : Bool :=
  let n := c.toNat
  (0x9 ≤ n && n ≤ 0xd) || n = 0x20 || n = 0x85 || n = 0xa0 || n = 0x1680 ||
    (0x2000 ≤ n && n ≤ 0x200a) || n = 0x2028 || n = 0x2029 || n = 0x202f || n = 0x205f ||
    n = 0x3000

/-- The text without its last characters that satisfy `p`. -/
def dropWhileEnd (p : Char → Bool) (s : List Char) : List Char := (s.reverse.dropWhile p).reverse

/-- `str::trim`. -/
def trim (s : List Char) : List Char := dropWhileEnd isWhitespace (s.dropWhile isWhitespace)

/-- `str::trim_start_matches` of a character. -/
def trimStartMatches (c : Char) (s : List Char) : List Char := s.dropWhile (· = c)

/-- `str::trim_end_matches` of a character. -/
def trimEndMatches (c : Char) (s : List Char) : List Char := dropWhileEnd (· = c) s

/-- `str::strip_prefix`. -/
def stripStart (start s : List Char) : Option (List Char) :=
  if start.isPrefixOf s then some (s.drop start.length) else none

/-- `str::contains` of a text. -/
def containsText (pattern s : List Char) : Bool := s.tails.any (fun t => pattern.isPrefixOf t)

/-- The input split after exactly `n` bytes, `none` past the end or inside a character. -/
def splitAtByte : List Char → Nat → Option (List Char × List Char)
  | [], n => if n = 0 then some ([], []) else none
  | c :: s, n =>
    if n = 0 then some ([], c :: s)
    else if c.utf8Size ≤ n then
      (splitAtByte s (n - c.utf8Size)).map (fun r => (c :: r.1, r.2))
    else none

/-- `str::get(a..b)` for `a ≤ b`. -/
def getBytes (a b : Nat) (s : List Char) : Option (List Char) :=
  (splitAtByte s a).bind (fun r => (splitAtByte r.2 (b - a)).map Prod.fst)

/-- `str::split_once` at a character. -/
def splitOnce (sep : Char) (s : List Char) : Option (List Char × List Char) :=
  if sep ∈ s then some (s.takeWhile (· ≠ sep), (s.dropWhile (· ≠ sep)).drop 1) else none

/-- `str::strip_suffix` of one character. -/
def stripSuffix (suffix : Char) (s : List Char) : Option (List Char) :=
  if s.getLast? = some suffix then some s.dropLast else none

/-- `str::parse::<i64>`: an optional sign and at least one decimal digit, in range. -/
def parseI64 (s : List Char) : Option Int :=
  let (negative, digits) :=
    match s with
    | '-' :: rest => (true, rest)
    | '+' :: rest => (false, rest)
    | _ => (false, s)
  if digits = [] ∨ !digits.all Char.isDigit then none
  else
    let n : Int := digits.foldl (fun acc c => acc * 10 + (c.toNat - '0'.toNat)) 0
    let value := if negative then -n else n
    if -2 ^ 63 ≤ value ∧ value < 2 ^ 63 then some value else none

/-- `str::rsplit_once` at a character. -/
def rsplitOnce (sep : Char) (s : List Char) : Option (List Char × List Char) :=
  (splitOnce sep s.reverse).map (fun r => (r.2.reverse, r.1.reverse))

/-- `str::parse::<u16>`: an optional plus sign and at least one decimal digit, in range. -/
def parseU16 (s : List Char) : Option UInt16 :=
  let digits :=
    match s with
    | '+' :: rest => rest
    | _ => s
  if digits = [] ∨ !digits.all Char.isDigit then none
  else
    let n := Nat.ofDigitChars 10 digits 0
    if n < 2 ^ 16 then some (UInt16.ofNat n) else none

end IpTools

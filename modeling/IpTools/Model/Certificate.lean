import IpTools.Model.Text

/-!
# Certificate facts

The helpers of the report layer that the certificate rules share with it: calendar arithmetic
on RFC 3339 timestamps, against a clock that is a parameter here, and the matching of subject
alternative names.
-/

namespace IpTools

/-- `i64` arithmetic outside debug builds wraps around. -/
def wrapI64 (x : Int) : Int := x.bmod (2 ^ 64)

/-- Days since 1970-01-01 for a proleptic-Gregorian civil date. -/
def daysFromCivil (y m d : Int) : Int :=
  let y := if m ≤ 2 then wrapI64 (y - 1) else y
  let era := y / 400
  let yoe := y % 400
  let mp := if m > 2 then m - 3 else wrapI64 (m + 9)
  let doy := wrapI64 ((wrapI64 (153 * mp + 2)).tdiv 5 + d - 1)
  let doe := wrapI64 (yoe * 365 + yoe / 4 - yoe / 100 + doy)
  wrapI64 (era * 146097 + doe - 719468)

/-- The civil date of a day number; the divisions are of numbers that are not negative. -/
def civilFromDays (days : Int) : Int × Int × Int :=
  let z := wrapI64 (days + 719468)
  let era := z / 146097
  let doe := z % 146097
  let yoe := (doe - doe / 1460 + doe / 36524 - doe / 146096) / 365
  let y := yoe + era * 400
  let doy := doe - (365 * yoe + yoe / 4 - yoe / 100)
  let mp := (5 * doy + 2) / 153
  let d := doy - (153 * mp + 2) / 5 + 1
  let mo := if mp < 10 then mp + 3 else mp - 9
  let yr := if mo ≤ 2 then y + 1 else y
  (yr, mo, d)

structure UtcFields where
  year : Int
  month : Int
  day : Int
  hour : Int
  minute : Int
  second : Int
deriving DecidableEq, Repr

/-- The text of an integer, filled up with zeros after its sign: `{:0width}`. -/
def zeroPad (width : Nat) (n : Int) : List Char :=
  let digits := Nat.toDigits 10 n.natAbs
  if n < 0 then '-' :: List.replicate (width - 1 - digits.length) '0' ++ digits
  else List.replicate (width - digits.length) '0' ++ digits

def UtcFields.text (f : UtcFields) : String :=
  String.ofList (zeroPad 4 f.year ++ '-' :: zeroPad 2 f.month ++ '-' :: zeroPad 2 f.day ++
    'T' :: zeroPad 2 f.hour ++ ':' :: zeroPad 2 f.minute ++ ':' :: zeroPad 2 f.second ++ ['Z'])

def utcFields (ts : Int) : UtcFields :=
  let days := ts / 86400
  let secs := ts % 86400
  let (yr, mo, d) := civilFromDays days
  ⟨yr, mo, d, secs / 3600, secs % 3600 / 60, secs % 60⟩

def formatUtc (ts : Int) : Option String := if ts < 0 then none else some (utcFields ts).text

example : formatUtc 946782245 = some "2000-01-02T03:04:05Z" := by decide +kernel

/-- What `SystemTime::now().duration_since(UNIX_EPOCH)` reads: the whole seconds, or `none` when
the clock stands before the epoch. -/
abbrev Clock := Option UInt64

/-- Number of days before expiry the certificate report flags as expiring. -/
def renderCertExpiryWindowDays : Int := 30

/-- Whether an RFC 3339 UTC timestamp denotes an instant already in the past. -/
def rfc3339IsInPast (now : Clock) (rfc3339 : String) : Bool :=
  match (stripSuffix 'Z' rfc3339.toList).bind (splitOnce 'T') with
  | none => false
  | some (date, time) =>
    match (date.splitOn '-' ++ time.splitOn ':').filterMap parseI64 with
    | [y, mo, d, h, mi, s] =>
      let nowSecs : Int := (now.map (fun n => (n.toNat : Int))).getD 0
      let nowSecs := if nowSecs < 2 ^ 63 then nowSecs else 0
      wrapI64 (daysFromCivil y mo d * 86400 + h * 3600 + mi * 60 + s) ≤ nowSecs
    | _ => false

/-- Days from today until the date encoded in an RFC 3339 UTC timestamp, negative when that date
is already past. -/
def daysUntilFromRfc3339 (now : Clock) (rfc3339 : String) : Option Int := do
  let date ← getBytes 0 10 rfc3339.toList
  let year ← (getBytes 0 4 date).bind parseI64
  let month ← (getBytes 5 7 date).bind parseI64
  let day ← (getBytes 8 10 date).bind parseI64
  let nowDays ← now.map (fun n => (n.toNat : Int) / 86400)
  return daysFromCivil year month day - nowDays

-- 2024 is a leap year: 2024-02-29 is the day before
example : daysUntilFromRfc3339 (some 1709164800) "2024-03-01T00:00:00Z" = some 1 := by
  decide +kernel

/-- Whether any subject alternative name covers the presented name, with RFC 6125-style
matching. -/
def certCoversHostname (sni : String) (sans : List String) : Bool :=
  let sni := ((sni.toList.dropWhile (· = '[')).reverse.dropWhile (· = ']')).reverse
  match parseIpAddr sni with
  | some ip => sans.any (fun san => parseIpAddr san.toList = some ip)
  | none =>
    let sniLower := sni.map Char.toLower
    sans.any (fun san =>
      match san.toList.map Char.toLower with
      | '*' :: '.' :: wildcard =>
        match splitOnce '.' sniLower with
        | some (_, rest) => rest = wildcard
        | none => false
      | sanLower => sanLower = sniLower)

end IpTools

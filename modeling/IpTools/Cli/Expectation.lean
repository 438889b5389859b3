import IpTools.Cli.Csv
import IpTools.Cli.RunProbeFlow
import IpTools.Model.Display
import IpTools.Model.Text

/-!
# Expectations

What `--expect-status`, `--expect-contains` and `--expect-rate` assert of the responses of a run.
-/

namespace IpTools

variable [DebugTables]

/-- `str::strip_suffix`. -/
def stripEnd (suffix s : List Char) : Option (List Char) :=
  if suffix.isSuffixOf s then some (s.take (s.length - suffix.length)) else none

inductive StatusSpec where
  | exactCode (code : UInt16)
  | statusClass (hundred : UInt16)
deriving DecidableEq, Repr

def StatusSpec.matchesStatus (spec : StatusSpec) (status : UInt16) : Bool :=
  match spec with
  | .exactCode code => code = status
  | .statusClass hundred => status / 100 = hundred

/-- The spec as it is written. -/
def StatusSpec.describes : StatusSpec → String
  | .exactCode code => toString code.toNat
  | .statusClass hundred => toString hundred.toNat ++ "xx"

def parseStatusSpec (spec : String) : Except String StatusSpec :=
  let malformed :=
    s!"invalid --expect-status '{spec}': expected an exact code like 200 or a class like 2xx"
  let s := trim spec.toList
  match stripEnd ['x', 'x'] s with
  | some cls =>
    match parseU16 cls with
    | none => .error malformed
    | some hundred =>
      if 1 ≤ hundred ∧ hundred ≤ 5 then .ok (.statusClass hundred)
      else .error s!"invalid --expect-status '{spec}': status classes run 1xx..5xx"
  | none =>
    match parseU16 s with
    | none => .error malformed
    | some code =>
      if 100 ≤ code ∧ code ≤ 599 then .ok (.exactCode code)
      else .error s!"invalid --expect-status '{spec}': status codes run 100..599"

/-- The bytes of a body that a snippet has at most. -/
def snippetBodyBytes : UInt64 := 1024

structure Expectation where
  status : Option StatusSpec
  contains : Option String
deriving DecidableEq, Repr

def Expectation.statusReason (e : Expectation) (status : Option UInt16) : List String :=
  match e.status, status with
  | none, _ => []
  | some spec, some code =>
    if spec.matchesStatus code then []
    else
      let expected := spec.describes
      [s!"status {code.toNat} (expected {expected})"]
  | some spec, none =>
    let expected := spec.describes
    [s!"no status observed (expected {expected})"]

def Expectation.bodyReason (e : Expectation) (body : Option String) (bodyBytes : Option UInt64) :
    List String :=
  match e.contains with
  | none => []
  | some needle =>
    if body.any (fun b => containsText needle.toList b.toList) then []
    else
      let shown := strDebug needle
      let snippet := body.getD "none"
      [s!"body missing {shown} (snippet {snippet})" ++
        if bodyBytes.any (fun n => snippetBodyBytes < n) then
          " (the needle may lie beyond the 1 KiB snippet)" else ""]

/-- Why an observation violates the expectations. -/
def Expectation.violation (e : Expectation) (destination : SocketAddr) (status : Option UInt16)
    (body : Option String) (bodyBytes : Option UInt64) (failed : Bool) : Option String :=
  if failed then some s!"{destination}: probe failed to complete (no response to assert on)"
  else
    let reasons := e.statusReason status ++ e.bodyReason body bodyBytes
    if reasons.isEmpty then none
    else
      let reason := ", ".intercalate reasons
      some s!"{destination}: {reason}"

def parseExpectation (expectStatus expectContains : Option String) :
    Except String (Option Expectation) := do
  let status ← expectStatus.mapM parseStatusSpec
  if expectContains.any String.isEmpty then
    throw ("--expect-contains cannot be an empty string (an empty needle matches " ++
      "every body)")
  if status.isNone && expectContains.isNone then return none
  else return some ⟨status, expectContains⟩

/-- The check of the HTTP commands. -/
def Expectation.check (e : Expectation) (obs : HttpObservation) : Option String :=
  e.violation obs.destination obs.status obs.bodySnippet obs.bodyBytes obs.failure.isSome

def expectCheck (e : Option Expectation) : Option (HttpObservation → Option String) :=
  e.map Expectation.check

structure ProbeExpectation where
  status : Option StatusSpec
  rate : Option Float

def ProbeExpectation.statusReason (e : ProbeExpectation) (r : ProbeResult) : List String :=
  match e.status with
  | none => []
  | some spec =>
    if r.statusCounts.isEmpty then ["no response to assert on (every attempt failed)"]
    else
      let outside := (r.statusCounts.filter (fun sc => !spec.matchesStatus sc.status)).map
        (fun sc => s!"{sc.status.toNat}x{sc.count}")
      if outside.isEmpty then []
      else
        let listed := ", ".intercalate outside
        let expected := spec.describes
        [s!"statuses \x7b{listed}\x7d outside expected {expected}"]

/-- A rate as a percentage with one decimal. -/
def formatPercent (rate : Float) : String := formatFixedBits 1 (rate * 100.0).toBits ++ "%"

def ProbeExpectation.rateReason (e : ProbeExpectation) (r : ProbeResult) : List String :=
  match e.rate with
  | none => []
  | some min =>
    if r.successRate < min then
      let rate := formatPercent r.successRate
      let expected := formatPercent min
      [s!"success rate {rate} (expected ≥ {expected})"]
    else []

def ProbeExpectation.violation (e : ProbeExpectation) (r : ProbeResult) : Option String :=
  let reasons := e.statusReason r ++ e.rateReason r
  if reasons.isEmpty then none
  else
    let reason := ", ".intercalate reasons
    some s!"{r.destination}: {reason}"

/-- `parse_expect_rate`, with `str::parse::<f64>` of the standard library as a parameter. -/
def parseExpectRate (parseF64 : List Char → Option Float) (spec : String) : Except String Float :=
  let malformed :=
    s!"invalid --expect-rate '{spec}': expected a fraction like 0.97 or a percent like 97%"
  let s := trim spec.toList
  match stripSuffix '%' s with
  | some pct =>
    match parseF64 (trim pct) with
    | none => .error malformed
    | some pct =>
      if !pct.isFinite || pct ≤ 0.0 || 100.0 < pct then
        .error s!"invalid --expect-rate '{spec}': a percent must be in (0, 100]"
      else .ok (pct / 100.0)
  | none =>
    match parseF64 s with
    | none => .error malformed
    | some v =>
      if !v.isFinite || v ≤ 0.0 || 1.0 < v then
        .error (s!"invalid --expect-rate '{spec}': a fraction must be in (0, 1], e.g. 0.97 for " ++
          "97%")
      else .ok v

/-- Only the HTTP protocols have statuses to assert on. -/
def parseProbeExpectation (parseF64 : List Char → Option Float) (protocol : String)
    (expectStatus expectRate : Option String) : Except String (Option ProbeExpectation) := do
  let status ← expectStatus.mapM (fun spec => do
    if protocol ∉ ["http", "http2", "http3"] then
      throw ("--expect-status only applies to --protocol http|http2|http3 (a tcp/tls repeat has " ++
        "no HTTP status to assert on)")
    parseStatusSpec spec)
  let rate ← expectRate.mapM (parseExpectRate parseF64)
  if status.isNone && rate.isNone then return none
  else return some ⟨status, rate⟩

/-- The lines that name the observations that violate an expectation, which a run does not come to
where its report is not written or a target is left unresolved. -/
def FlowResult.violations {O : Type} (r : FlowResult O) (check : O → Option String)
    (written : Bool) : List String :=
  if !written || 0 < r.unresolved then []
  else
    (r.perTarget.flatMap Prod.snd).filterMap
      (fun o => (check o).map (fun reason => s!"expectation violated: {reason}"))

end IpTools

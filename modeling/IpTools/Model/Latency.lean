import IpTools.Model.Observation

/-!
# Latency statistics

Statistics over repeated measurements in whole milliseconds. Only the attempts that gave a sample
are counted.
-/

namespace IpTools

/-- Running latency distribution over the samples, in the order they were taken. -/
structure LatencyStats where
  samples : List UInt64
deriving DecidableEq, Repr

def LatencyStats.empty : LatencyStats := ⟨[]⟩

def LatencyStats.push (stats : LatencyStats) (ms : UInt64) : LatencyStats :=
  ⟨stats.samples ++ [ms]⟩

/-- `f64::ceil` and the cast to `usize`. A cast from `f64` rounds down and saturates. -/
def ceilUsize (x : Float) : Nat :=
  let down := x.toUInt64
  if down.toFloat < x then min (down.toNat + 1) (2 ^ 64 - 1) else down.toNat

/-- The nearest rank of a percentile. -/
def percentileRank (n : Nat) (p : Float) : Nat := ceilUsize (p / 100.0 * n.toFloat)

def percentile (sorted : List UInt64) (p : Float) : Option UInt64 :=
  let n := sorted.length
  if n = 0 ∨ !(0.0 ≤ p && p ≤ 100.0) then none
  else sorted[min (percentileRank n p - 1) (n - 1)]?

/-- The floor of the exact mean: the sum is taken in 128 bits. -/
def meanOf (samples : List UInt64) : Option UInt64 :=
  if samples.length = 0 then none
  else some (UInt64.ofNat ((samples.map UInt64.toNat).sum / samples.length))

def sumFloat (xs : List Float) : Float := xs.foldl (· + ·) 0.0

/-- The population standard deviation about the mean that is not rounded down. The sums of `f64`
are taken in the order of the samples. -/
def jitterOf (samples : List UInt64) : Option UInt64 :=
  if samples.length = 0 then none
  else
    let n := samples.length.toFloat
    let meanF := sumFloat (samples.map UInt64.toFloat) / n
    let variance := sumFloat (samples.map (fun s =>
      let d := s.toFloat - meanF
      d * d)) / n
    some variance.sqrt.toUInt64

/-- Snapshot a summary plus the raw samples. -/
def LatencyStats.summarize (stats : LatencyStats) : LatencySummary :=
  let sorted := stats.samples.mergeSort (fun a b => decide (a ≤ b))
  { count := stats.samples.length
    min := sorted.head?
    p50 := percentile sorted 50.0
    p90 := percentile sorted 90.0
    p95 := percentile sorted 95.0
    p99 := percentile sorted 99.0
    max := sorted.getLast?
    mean := meanOf stats.samples
    jitter := jitterOf stats.samples
    samples := stats.samples }

-- the deviation about the exact mean is 1.96, about the rounded one 2.05
example : jitterOf [0, 0, 0, 4, 4] = some 1 := by decide +kernel

end IpTools

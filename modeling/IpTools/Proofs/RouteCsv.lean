import IpTools.Cli.Route
import IpTools.Proofs.AddressText
import IpTools.Proofs.CsvRows

/-!
# The CSV output of the route command

The tables are read back row by row, and a table has all that is shown of its hops: tables of
different hops are different texts.
-/

namespace IpTools

open CharClass Csv

lemma toString_nat_injective : Function.Injective (toString : Nat → String) := by
  intro m n h
  have hdigits : Nat.toDigits 10 m = Nat.toDigits 10 n := by
    have hlist := congrArg String.toList h
    rwa [Nat.toString_eq_repr, Nat.toString_eq_repr, Nat.toList_repr, Nat.toList_repr] at hlist
  rw [← Nat.ofDigitChars_toDigits (by decide : 1 < 10) (by decide) (n := m), hdigits,
    Nat.ofDigitChars_toDigits (by decide) (by decide)]

lemma opt_injective : Function.Injective opt := by
  have hnone : ∀ x : UInt64, opt (some x) ≠ opt none := fun x => Nat.repr_ne_empty
  intro v w h
  cases v with
  | none =>
    cases w with
    | none => rfl
    | some y => exact absurd h.symm (hnone y)
  | some x =>
    cases w with
    | none => exact absurd h (hnone x)
    | some y => exact congrArg some (UInt64.toNat_inj.mp (toString_nat_injective h))

lemma toString_ipAddr_ne_empty (ip : IpAddr) : toString ip ≠ "" := by
  intro h
  have hempty : parseIpAddr "".toList = none := by decide
  have hparse := parseIpAddr_toString ip
  rw [h, hempty] at hparse
  cases hparse

/-- The text of an address that may be missing. -/
def addrText (addr : Option IpAddr) : String := (addr.map toString).getD ""

lemma addrText_injective : Function.Injective addrText := by
  intro v w h
  cases v with
  | none =>
    cases w with
    | none => rfl
    | some y => exact absurd h.symm (toString_ipAddr_ne_empty y)
  | some x =>
    cases w with
    | none => exact absurd h (toString_ipAddr_ne_empty x)
    | some y => exact congrArg some (toString_ipAddr_injective h)

lemma bare_ipAddr (ip : IpAddr) : All IsBare (toString ip) := by
  cases ip with
  | v4 ip => exact bare_ipv4 ip
  | v6 ip => exact bare_ipv6 ip

/-- The addresses are read back from between the semicolons. -/
lemma split_hopAddrs (s : RouteHopStats) :
    ((hopAddrs s).split ';').toList.map (fun x => x.copy) =
      if s.addrs = [] then [""] else s.addrs.map toString := by
  have hsemicolon : ∀ t ∈ s.addrs.map toString, ';' ∉ t.toList := by
    intro t ht hc
    obtain ⟨ip, -, rfl⟩ := List.mem_map.mp ht
    exact absurd (bare_ipAddr ip ';' hc) (by decide)
  have hread := String.toList_split_intercalate hsemicolon
  simp only [List.map_eq_nil_iff] at hread
  exact hread

lemma hopAddrs_inj {s t : RouteHopStats} : hopAddrs s = hopAddrs t ↔ s.addrs = t.addrs := by
  have hne : ∀ addrs : List IpAddr, addrs.map toString ≠ [""] := by
    intro addrs h
    have hmem : "" ∈ addrs.map toString := h ▸ List.mem_singleton_self ""
    obtain ⟨ip, -, hip⟩ := List.mem_map.mp hmem
    exact toString_ipAddr_ne_empty ip hip
  constructor
  · intro h
    have hs := split_hopAddrs s
    rw [h, split_hopAddrs t] at hs
    by_cases hempty : s.addrs = []
    · by_cases hempty' : t.addrs = []
      · rw [hempty, hempty']
      · rw [if_pos hempty, if_neg hempty'] at hs
        exact absurd hs (hne t.addrs)
    · by_cases hempty' : t.addrs = []
      · rw [if_neg hempty, if_pos hempty'] at hs
        exact absurd hs.symm (hne s.addrs)
      · rw [if_neg hempty, if_neg hempty'] at hs
        exact (List.map_injective_iff.mpr toString_ipAddr_injective hs).symm
  · intro h
    rw [hopAddrs, hopAddrs, h]

lemma flagText_injective : Function.Injective flagText := by
  intro a b h
  cases a <;> cases b <;> first | rfl | exact absurd h (by decide)

lemma flag_writes (flag : Bool) : Writes (flagText flag) (flagText flag) := by
  cases flag <;> exact .raw (by decide)

def routeCsvColumns : List String := ["ttl", "hostname", "addr", "rtt_ms", "lost"]

def routeCsvValues (h : RouteHop) : List String :=
  [toString h.ttl.toNat, h.hostname.getD "", addrText h.addr, opt h.rttMs, flagText h.lost]

lemma routeCsvRow_records (h : RouteHop) : Records (routeCsvRow h) [routeCsvValues h] := by
  have hrow := fields_cell (nat_writes h.ttl.toNat)
    |>.cell (csvField_writes (h.hostname.getD ""))
    |>.cell (csvField_writes (addrText h.addr))
    |>.cell (csvField_writes (opt h.rttMs))
    |>.record (flag_writes h.lost)
  exact hrow

lemma renderRouteCsv_records (hops : List RouteHop) :
    Records (renderRouteCsv hops) (routeCsvColumns :: hops.map routeCsvValues) := by
  have hheader : Records routeCsvHeader [routeCsvColumns] := by
    have htext : routeCsvHeader = ",".intercalate routeCsvColumns ++ "\n" := by decide +kernel
    rw [htext]
    exact records_intercalate (show ∀ s ∈ routeCsvColumns, All IsRaw s by decide)
  exact hheader.append (records_map (fun h _ => routeCsvRow_records h))

/-- A hop as it is shown: a missing name is an empty one. -/
def RouteHop.shown (h : RouteHop) : RouteHop := { h with hostname := some (h.hostname.getD "") }

lemma routeCsvValues_inj {h h' : RouteHop} :
    routeCsvValues h = routeCsvValues h' ↔ h.shown = h'.shown := by
  unfold routeCsvValues RouteHop.shown
  simp only [List.cons.injEq, and_true, RouteHop.mk.injEq, toString_nat_injective.eq_iff,
    UInt8.toNat_inj, addrText_injective.eq_iff, opt_injective.eq_iff, flagText_injective.eq_iff,
    Option.some.injEq]
  tauto

lemma routeCsvRow_congr {h h' : RouteHop} (hshown : h.shown = h'.shown) :
    routeCsvRow h = routeCsvRow h' := by
  obtain ⟨httl, haddr, hname, hrtt, hlost⟩ := RouteHop.mk.inj hshown
  unfold routeCsvRow
  simp only [httl, haddr, Option.some.inj hname, hrtt, hlost]

def routeRepeatCsvColumns : List String :=
  ["ttl", "hostname", "addr", "rtt_min_ms", "rtt_p50_ms", "rtt_max_ms", "answered", "runs",
    "path_changed"]

def routeRepeatCsvValues (runs : Nat) (h : RouteHopStats) : List String :=
  [toString h.ttl.toNat, h.hostname.getD "", hopAddrs h, opt h.rtt.min, opt h.rtt.p50,
    opt h.rtt.max, toString h.answered.toNat, toString runs, flagText h.pathChanged]

lemma routeRepeatCsvRow_records (runs : Nat) (h : RouteHopStats) :
    Records (routeRepeatCsvRow runs h) [routeRepeatCsvValues runs h] := by
  have hrow := fields_cell (nat_writes h.ttl.toNat)
    |>.cell (csvField_writes (h.hostname.getD ""))
    |>.cell (csvField_writes (hopAddrs h))
    |>.cell (csvField_writes (opt h.rtt.min))
    |>.cell (csvField_writes (opt h.rtt.p50))
    |>.cell (csvField_writes (opt h.rtt.max))
    |>.cell (nat_writes h.answered.toNat)
    |>.cell (nat_writes runs)
    |>.record (flag_writes h.pathChanged)
  exact hrow

lemma renderRouteRepeatCsv_records (route : RouteRepeat) :
    Records (renderRouteRepeatCsv route)
      (routeRepeatCsvColumns :: route.hops.map (routeRepeatCsvValues route.runs)) := by
  have hheader : Records routeRepeatCsvHeader [routeRepeatCsvColumns] := by
    have htext : routeRepeatCsvHeader = ",".intercalate routeRepeatCsvColumns ++ "\n" := by
      decide +kernel
    rw [htext]
    exact records_intercalate (show ∀ s ∈ routeRepeatCsvColumns, All IsRaw s by decide)
  exact hheader.append (records_map (fun h _ => routeRepeatCsvRow_records route.runs h))

/-- What the table shows of a hop. -/
structure ShownHop where
  ttl : UInt8
  hostname : String
  addrs : List IpAddr
  min : Option UInt64
  p50 : Option UInt64
  max : Option UInt64
  answered : UInt16
  runs : Nat
  pathChanged : Bool
deriving DecidableEq

def RouteHopStats.shown (runs : Nat) (h : RouteHopStats) : ShownHop :=
  { ttl := h.ttl
    hostname := h.hostname.getD ""
    addrs := h.addrs
    min := h.rtt.min
    p50 := h.rtt.p50
    max := h.rtt.max
    answered := h.answered
    runs
    pathChanged := h.pathChanged }

lemma routeRepeatCsvValues_inj {runs runs' : Nat} {h h' : RouteHopStats} :
    routeRepeatCsvValues runs h = routeRepeatCsvValues runs' h' ↔
      h.shown runs = h'.shown runs' := by
  unfold routeRepeatCsvValues RouteHopStats.shown
  simp only [List.cons.injEq, and_true, ShownHop.mk.injEq, toString_nat_injective.eq_iff,
    UInt8.toNat_inj, UInt16.toNat_inj, hopAddrs_inj, opt_injective.eq_iff,
    flagText_injective.eq_iff]

lemma routeRepeatCsvRow_congr {runs runs' : Nat} {h h' : RouteHopStats}
    (hshown : h.shown runs = h'.shown runs') :
    routeRepeatCsvRow runs h = routeRepeatCsvRow runs' h' := by
  obtain ⟨httl, hname, haddrs, hmin, hp50, hmax, hanswered, hruns, hchanged⟩ :=
    ShownHop.mk.inj hshown
  unfold routeRepeatCsvRow
  simp only [hopAddrs_inj.mpr haddrs, httl, hname, hmin, hp50, hmax, hanswered, hruns, hchanged]

lemma map_eq_map_iff_forall₂ {α β γ : Type} {f : α → γ} {g : β → γ} {l : List α} {l' : List β} :
    l.map f = l'.map g ↔ List.Forall₂ (fun a b => f a = g b) l l' := by
  rw [← List.forall₂_eq_eq_eq, List.forall₂_map_left_iff, List.forall₂_map_right_iff]

/-- Tables of one header are the same text where the values of their rows are the same. -/
lemma table_eq_iff {α β γ : Type} {header : String} {columns : List String} {row : α → String}
    {row' : β → String} {values : α → List String} {values' : β → List String} {shown : α → γ}
    {shown' : β → γ} {l : List α} {l' : List β}
    (h : Records (header ++ String.join (l.map row)) (columns :: l.map values))
    (h' : Records (header ++ String.join (l'.map row')) (columns :: l'.map values'))
    (hvalues : ∀ a b, values a = values' b ↔ shown a = shown' b)
    (hrow : ∀ a b, shown a = shown' b → row a = row' b) :
    header ++ String.join (l.map row) = header ++ String.join (l'.map row') ↔
      l.map shown = l'.map shown' := by
  constructor
  · intro htext
    have hread := h.read_eq
    rw [htext, h'.read_eq] at hread
    have hrows := (List.cons.inj (Option.some.inj hread)).2.symm
    rw [map_eq_map_iff_forall₂] at hrows ⊢
    exact hrows.imp (fun a b => (hvalues a b).mp)
  · intro hshown
    have hrows : l.map row = l'.map row' := by
      rw [map_eq_map_iff_forall₂] at hshown ⊢
      exact hshown.imp hrow
    rw [hrows]

/-- The reader gets the header and one row for each hop. Two traces, and two aggregates, have the
same table where all that is shown of their hops is the same. -/
theorem route_csv_read :
    (∀ hops, Csv.read (renderRouteCsv hops).toList =
      some (routeCsvColumns :: hops.map routeCsvValues)) ∧
    (∀ route, Csv.read (renderRouteRepeatCsv route).toList =
      some (routeRepeatCsvColumns :: route.hops.map (routeRepeatCsvValues route.runs))) ∧
    (∀ hops hops', renderRouteCsv hops = renderRouteCsv hops' ↔
      hops.map RouteHop.shown = hops'.map RouteHop.shown) ∧
    ∀ route route', renderRouteRepeatCsv route = renderRouteRepeatCsv route' ↔
      route.hops.map (RouteHopStats.shown route.runs) =
        route'.hops.map (RouteHopStats.shown route'.runs) := by
  refine ⟨fun hops => (renderRouteCsv_records hops).read_eq,
    fun route => (renderRouteRepeatCsv_records route).read_eq, fun hops hops' => ?_,
    fun route route' => ?_⟩
  · have h := renderRouteCsv_records hops
    have h' := renderRouteCsv_records hops'
    unfold renderRouteCsv at h h' ⊢
    exact table_eq_iff h h' (fun _ _ => routeCsvValues_inj) (fun _ _ => routeCsvRow_congr)
  · have h := renderRouteRepeatCsv_records route
    have h' := renderRouteRepeatCsv_records route'
    unfold renderRouteRepeatCsv at h h' ⊢
    exact table_eq_iff h h' (fun _ _ => routeRepeatCsvValues_inj)
      (fun _ _ => routeRepeatCsvRow_congr)

end IpTools

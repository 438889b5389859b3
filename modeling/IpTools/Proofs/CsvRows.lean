import IpTools.Cli.Csv
import IpTools.Library.Csv
import IpTools.Proofs.Display

/-!
# The CSV output and its reader

Every cell is a field that the reader of comma-separated values takes for the value it stands for:
a quoted value, or a number that needs no quotes. The rows follow from the cells and the commas
between them.
-/

namespace IpTools

open CharClass Csv

lemma csvField_writes (value : String) : Writes (csvField value) value := by
  unfold csvField
  split
  · exact .quoted value
  · rename_i h
    refine .raw (fun c hc hmem => h (List.any_eq_true.mpr ⟨c, hc, ?_⟩))
    simp only [List.mem_cons, List.not_mem_nil, or_false] at hmem
    simp only [Bool.or_eq_true, decide_eq_true_eq]
    tauto

lemma isRaw_of_isAlphanum {c : Char} (h : c.isAlphanum = true) : IsRaw c := by
  intro hc
  revert h
  simp only [List.mem_cons, List.not_mem_nil, or_false] at hc
  rcases hc with rfl | rfl | rfl | rfl <;> decide

lemma raw_nat (n : Nat) : All IsRaw (toString n) := (all_nat n).mono (fun _ => isRaw_of_isAlphanum)

lemma nat_writes (n : Nat) : Writes (toString n) (toString n) := .raw (raw_nat n)

lemma opt_writes (v : Option UInt64) : Writes (opt64 v) (opt64 v) := by
  cases v with
  | none => exact .raw (show All IsRaw "" by decide)
  | some x => exact nat_writes x.toNat

lemma ttl_writes (ttl : Option UInt32) : Writes (ttlText ttl) (ttlText ttl) := by
  cases ttl with
  | none => exact .raw (show All IsRaw "" by decide)
  | some t => exact nat_writes t.toNat

lemma raw_zeroPad (places n : Nat) : All IsRaw (String.ofList (zeroPad places (n : Int))) := by
  rw [all_ofList_iff, zeroPad, if_neg (by omega)]
  intro c hc
  rcases List.mem_append.mp hc with hc | hc
  · rw [(List.mem_replicate.mp hc).2]
    decide
  · exact isRaw_of_isAlphanum (isAlphanum_of_mem_toDigits (by decide) (by decide) c hc)

lemma raw_formatFixedBits (places : Nat) (bits : UInt64) :
    All IsRaw (formatFixedBits places bits) := by
  have hsign : All IsRaw (if bits.toNat / 2 ^ 63 = 1 then "-" else "") := by split <;> decide
  unfold formatFixedBits
  dsimp only
  split
  · split
    · exact hsign.append (by decide)
    · decide
  · exact ((hsign.append (raw_nat _)).append (by decide)).append (raw_zeroPad _ _)

lemma rate_writes (rate : Float) : Writes (formatRate4 rate) (formatRate4 rate) :=
  .raw (raw_formatFixedBits 4 rate.toBits)

def httpCsvColumns : List String :=
  ["host", "destination", "protocol", "status", "location", "body_bytes", "ttfb_ms", "latency_ms",
    "sni", "version", "cipher", "alpn", "subject", "issuer", "not_after_utc", "sans", "covers",
    "headers", "body_snippet", "failure"]

lemma httpCsvHeader_records : Records httpCsvHeader [httpCsvColumns] := by
  have htext : httpCsvHeader = ",".intercalate httpCsvColumns ++ "\n" := by decide +kernel
  rw [htext]
  exact records_intercalate (show ∀ s ∈ httpCsvColumns, All IsRaw s by decide)

/-- The values of a row, in the order of the columns. -/
def httpCsvValues (host : String) (o : HttpObservation) : List String :=
  let cert := o.tls.bind TlsObservation.certificate
  [host, toString o.destination, o.protocol.getD "", opt (o.status.map UInt16.toUInt64),
    o.location.getD "", opt o.bodyBytes, opt o.ttfbMs, opt o.latencyMs,
    (o.tls.map TlsObservation.sni).getD "", (o.tls.bind TlsObservation.version).getD "",
    (o.tls.bind TlsObservation.cipher).getD "", (o.tls.bind TlsObservation.alpn).getD "",
    (cert.map CertificateSummary.subject).getD "", (cert.map CertificateSummary.issuer).getD "",
    (cert.bind CertificateSummary.notAfterUtc).getD "",
    (cert.map (fun c => ";".intercalate c.sans)).getD "", coversCsv o.tls,
    curatedHeadersCsv o.headers, o.bodySnippet.getD "",
    (o.failure.map (fun e => toString e.kind)).getD ""]

lemma covers_writes (tls : Option TlsObservation) : Writes (coversCsv tls) (coversCsv tls) := by
  apply Writes.raw
  unfold coversCsv
  split
  · split <;> decide
  · decide

lemma httpCsvRow_records (host : String) (o : HttpObservation) :
    Records (httpCsvRow host o) [httpCsvValues host o] := by
  let cert := o.tls.bind TlsObservation.certificate
  have hrow := fields_cell (csvField_writes host)
    |>.cell (csvField_writes (toString o.destination))
    |>.cell (csvField_writes (o.protocol.getD ""))
    |>.cell (csvField_writes (opt (o.status.map UInt16.toUInt64)))
    |>.cell (csvField_writes (o.location.getD ""))
    |>.cell (csvField_writes (opt o.bodyBytes))
    |>.cell (csvField_writes (opt o.ttfbMs))
    |>.cell (csvField_writes (opt o.latencyMs))
    |>.cell (csvField_writes ((o.tls.map TlsObservation.sni).getD ""))
    |>.cell (csvField_writes ((o.tls.bind TlsObservation.version).getD ""))
    |>.cell (csvField_writes ((o.tls.bind TlsObservation.cipher).getD ""))
    |>.cell (csvField_writes ((o.tls.bind TlsObservation.alpn).getD ""))
    |>.cell (csvField_writes ((cert.map CertificateSummary.subject).getD ""))
    |>.cell (csvField_writes ((cert.map CertificateSummary.issuer).getD ""))
    |>.cell (csvField_writes ((cert.bind CertificateSummary.notAfterUtc).getD ""))
    |>.cell (csvField_writes ((cert.map (fun c => ";".intercalate c.sans)).getD ""))
    |>.cell (covers_writes o.tls)
    |>.cell (csvField_writes (curatedHeadersCsv o.headers))
    |>.cell (csvField_writes (o.bodySnippet.getD ""))
    |>.record (csvField_writes ((o.failure.map (fun e => toString e.kind)).getD ""))
  simp only [List.cons_append, List.nil_append] at hrow
  exact hrow

def dnsCsvColumns : List String :=
  ["host", "resolver", "record_type", "attempts", "success_rate", "latency_p50_ms",
    "latency_p95_ms", "latency_max_ms", "failures", "ttl", "records"]

lemma dnsCsvHeader_records : Records dnsCsvHeader [dnsCsvColumns] := by
  have htext : dnsCsvHeader = ",".intercalate dnsCsvColumns ++ "\n" := by decide +kernel
  rw [htext]
  exact records_intercalate (show ∀ s ∈ dnsCsvColumns, All IsRaw s by decide)

def dnsRepeatCsvValues (host : String) (r : DnsRepeatResult) : List String :=
  [host, r.resolver.label, toString r.recordType, toString r.attempts, formatRate4 r.successRate,
    opt64 r.latency.p50, opt64 r.latency.p95, opt64 r.latency.max, toString r.failures,
    ttlText r.ttl, ""]

def dnsCsvValues (unprintable : Char → Bool) (host : String) (obs : DnsObservation) :
    List String :=
  [host, obs.resolver.label, toString obs.recordType, "1",
    if obs.error.isNone then "1.0000" else "0.0000", opt64 obs.latencyMs, opt64 obs.latencyMs,
    opt64 obs.latencyMs, if obs.error.isSome then "1" else "0", ttlText obs.ttl,
    ", ".intercalate (obs.records.map (DnsRecord.display unprintable))]

/-- The rows of a target, in the view that it uses. -/
def targetDnsValues (unprintable : Char → Bool) (o : TargetDns) : List (List String) :=
  if o.repeated then o.results.map (dnsRepeatCsvValues o.host)
  else o.observations.map (dnsCsvValues unprintable o.host)

lemma dnsRepeatCsvRow_records (host : String) (r : DnsRepeatResult) :
    Records (dnsRepeatCsvRow host r) [dnsRepeatCsvValues host r] := by
  have hrow := fields_cell (csvField_writes host)
    |>.cell (csvField_writes r.resolver.label)
    |>.cell (csvField_writes (toString r.recordType))
    |>.cell (nat_writes r.attempts)
    |>.cell (rate_writes r.successRate)
    |>.cell (opt_writes r.latency.p50)
    |>.cell (opt_writes r.latency.p95)
    |>.cell (opt_writes r.latency.max)
    |>.cell (nat_writes r.failures)
    |>.cell (ttl_writes r.ttl)
    |>.record_empty
  simp only [List.cons_append, List.nil_append] at hrow
  exact hrow

lemma choice_writes {c : Prop} [Decidable c] {s t : String} (hs : All IsRaw s) (ht : All IsRaw t) :
    Writes (if c then s else t) (if c then s else t) := by
  split
  · exact .raw hs
  · exact .raw ht

lemma dnsCsvRow_records (unprintable : Char → Bool) (host : String) (obs : DnsObservation) :
    Records (dnsCsvRow unprintable host obs) [dnsCsvValues unprintable host obs] := by
  have hrow := fields_cell (csvField_writes host)
    |>.cell (csvField_writes obs.resolver.label)
    |>.cell (csvField_writes (toString obs.recordType))
    |>.cell (Writes.raw (show All IsRaw "1" by decide))
    |>.cell (choice_writes (c := obs.error.isNone = true) (show All IsRaw "1.0000" by decide)
      (show All IsRaw "0.0000" by decide))
    |>.cell (opt_writes obs.latencyMs)
    |>.cell (opt_writes obs.latencyMs)
    |>.cell (opt_writes obs.latencyMs)
    |>.cell (choice_writes (c := obs.error.isSome = true) (show All IsRaw "1" by decide)
      (show All IsRaw "0" by decide))
    |>.cell (ttl_writes obs.ttl)
    |>.record (csvField_writes
      (", ".intercalate (obs.records.map (DnsRecord.display unprintable))))
  simp only [List.cons_append, List.nil_append] at hrow
  exact hrow

def probeCsvColumns : List String :=
  ["host", "destination", "attempts", "success_rate", "latency_p50_ms", "latency_p95_ms",
    "latency_max_ms", "jitter_ms", "ttfb_p50_ms", "ttfb_p95_ms", "ttfb_max_ms", "failures",
    "statuses"]

lemma probeCsvHeader_records : Records probeCsvHeader [probeCsvColumns] := by
  have htext : probeCsvHeader = ",".intercalate probeCsvColumns ++ "\n" := by decide +kernel
  rw [htext]
  exact records_intercalate (show ∀ s ∈ probeCsvColumns, All IsRaw s by decide)

def probeCsvValues (host : String) (r : ProbeResult) : List String :=
  [host, toString r.destination, toString r.attempts, formatRate4 r.successRate,
    opt64 r.latency.p50, opt64 r.latency.p95, opt64 r.latency.max, opt64 r.latency.jitter,
    opt64 r.ttfb.p50, opt64 r.ttfb.p95, opt64 r.ttfb.max, toString r.failures,
    statusesText r.statusCounts]

/-- Without statuses the last field is left empty. -/
lemma statuses_writes (counts : List StatusCount) :
    Writes (if counts.isEmpty then "" else csvField (statusesText counts))
      (statusesText counts) := by
  split
  · rename_i hempty
    rw [List.isEmpty_iff.mp hempty]
    exact .raw (show All IsRaw "" by decide)
  · exact csvField_writes _

lemma probeCsvRow_records (host : String) (r : ProbeResult) :
    Records (probeCsvRow host r) [probeCsvValues host r] := by
  have hrow := fields_cell (csvField_writes host)
    |>.cell (csvField_writes (toString r.destination))
    |>.cell (nat_writes r.attempts)
    |>.cell (rate_writes r.successRate)
    |>.cell (opt_writes r.latency.p50)
    |>.cell (opt_writes r.latency.p95)
    |>.cell (opt_writes r.latency.max)
    |>.cell (opt_writes r.latency.jitter)
    |>.cell (opt_writes r.ttfb.p50)
    |>.cell (opt_writes r.ttfb.p95)
    |>.cell (opt_writes r.ttfb.max)
    |>.cell (nat_writes r.failures)
    |>.record (statuses_writes r.statusCounts)
  simp only [List.cons_append, List.nil_append] at hrow
  exact hrow

lemma renderHttpCsv_records (perTarget : List (String × List HttpObservation)) :
    Records (renderHttpCsv perTarget)
      (httpCsvColumns :: perTarget.flatMap (fun t => t.2.map (httpCsvValues t.1))) := by
  unfold renderHttpCsv
  exact httpCsvHeader_records.append (records_join (fun t _ =>
    records_map (fun o _ => httpCsvRow_records t.1 o)))

lemma renderDnsCsv_records (unprintable : Char → Bool) (outputs : List TargetDns) :
    Records (renderDnsCsv unprintable outputs)
      (dnsCsvColumns :: outputs.flatMap (targetDnsValues unprintable)) := by
  unfold renderDnsCsv
  refine dnsCsvHeader_records.append (records_join (fun o _ => ?_))
  unfold targetDnsValues
  split
  · exact records_map (fun r _ => dnsRepeatCsvRow_records o.host r)
  · exact records_map (fun obs _ => dnsCsvRow_records unprintable o.host obs)

lemma renderProbeCsv_records (perTarget : List (String × List ProbeResult)) :
    Records (renderProbeCsv perTarget)
      (probeCsvColumns :: perTarget.flatMap (fun t => t.2.map (probeCsvValues t.1))) := by
  unfold renderProbeCsv
  exact probeCsvHeader_records.append (records_join (fun t _ =>
    records_map (fun r _ => probeCsvRow_records t.1 r)))

lemma length_targetDnsValues (unprintable : Char → Bool) (o : TargetDns) :
    ∀ row ∈ targetDnsValues unprintable o, row.length = dnsCsvColumns.length := by
  unfold targetDnsValues
  split
  · exact List.forall_mem_map.mpr (fun _ _ => rfl)
  · exact List.forall_mem_map.mpr (fun _ _ => rfl)

/-- The reader gets the header and one row for each item in order, with the values that were
meant, and every row has as many fields as the header. -/
theorem csv_output_read (unprintable : Char → Bool) :
    (∀ perTarget : List (String × List HttpObservation),
      let rows := perTarget.flatMap (fun t => t.2.map (httpCsvValues t.1))
      Csv.read (renderHttpCsv perTarget).toList = some (httpCsvColumns :: rows) ∧
        ∀ row ∈ rows, row.length = httpCsvColumns.length) ∧
    (∀ outputs : List TargetDns,
      let rows := outputs.flatMap (targetDnsValues unprintable)
      Csv.read (renderDnsCsv unprintable outputs).toList = some (dnsCsvColumns :: rows) ∧
        ∀ row ∈ rows, row.length = dnsCsvColumns.length) ∧
    ∀ perTarget : List (String × List ProbeResult),
      let rows := perTarget.flatMap (fun t => t.2.map (probeCsvValues t.1))
      Csv.read (renderProbeCsv perTarget).toList = some (probeCsvColumns :: rows) ∧
        ∀ row ∈ rows, row.length = probeCsvColumns.length := by
  refine ⟨fun perTarget => ⟨(renderHttpCsv_records perTarget).read_eq, ?_⟩,
    fun outputs => ⟨(renderDnsCsv_records unprintable outputs).read_eq, ?_⟩,
    fun perTarget => ⟨(renderProbeCsv_records perTarget).read_eq, ?_⟩⟩
  · exact List.forall_mem_flatMap.mpr (fun t _ => List.forall_mem_map.mpr (fun _ _ => rfl))
  · exact List.forall_mem_flatMap.mpr (fun o _ => length_targetDnsValues unprintable o)
  · exact List.forall_mem_flatMap.mpr (fun t _ => List.forall_mem_map.mpr (fun _ _ => rfl))

end IpTools

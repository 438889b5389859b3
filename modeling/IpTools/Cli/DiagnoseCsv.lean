import IpTools.Cli.Csv
import IpTools.Cli.RunDiagnose

/-!
# CSV output of the diagnose command

One row for each diagnosis of each report. Severity, category and confidence have the names of the
JSON output.
-/

namespace IpTools

def Severity.name : Severity → String
  | .info => "INFO"
  | .low => "LOW"
  | .medium => "MEDIUM"
  | .high => "HIGH"

def Confidence.name : Confidence → String
  | .unknown => "UNKNOWN"
  | .low => "LOW"
  | .medium => "MEDIUM"
  | .high => "HIGH"

def DiagnosticCategory.name : DiagnosticCategory → String
  | .healthy => "healthy"
  | .dns => "dns"
  | .addressFamily => "address_family"
  | .partialConnectivity => "partial_connectivity"
  | .totalConnectivityLoss => "total_connectivity_loss"
  | .intermittent => "intermittent"
  | .tcp => "tcp"
  | .tls => "tls"
  | .certificate => "certificate"
  | .http => "http"
  | .quic => "quic"
  | .possibleNetworkFiltering => "possible_network_filtering"
  | .unknown => "unknown"

def joinSemis (items : List String) : String := "; ".intercalate items

def diagnoseCsvRow (target : String) (d : Diagnosis) : String :=
  csvField target ++ "," ++ csvField d.severity.name ++ "," ++ csvField d.category.name ++ "," ++
    csvField d.confidence.name ++ "," ++ csvField d.summary ++ "," ++
    csvField (joinSemis (d.evidence.map Evidence.detail)) ++ "," ++
    csvField (joinSemis d.possibleCauses) ++ "\n"

def diagnoseCsvHeader : String :=
  "host,severity,category,confidence,summary,evidence,possible_causes\n"

def renderDiagnoseCsv (reports : List DiagnoseReport) : String :=
  diagnoseCsvHeader ++
    String.join (reports.map (fun r => String.join (r.diagnoses.map (diagnoseCsvRow r.target))))

end IpTools

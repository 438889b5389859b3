import IpTools.Proofs.Authority
import IpTools.Proofs.CertificateNames
import IpTools.Proofs.CoOccurrence
import IpTools.Proofs.Confidence
import IpTools.Proofs.CsvRows
import IpTools.Proofs.DnsDisagreement
import IpTools.Proofs.DnsObservations
import IpTools.Proofs.DohParameter
import IpTools.Proofs.Endpoints
import IpTools.Proofs.FilteringNoninterference
import IpTools.Proofs.HopTimeout
import IpTools.Proofs.HttpConsistency
import IpTools.Proofs.LatencyStatistics
import IpTools.Proofs.LifetimeAgreement
import IpTools.Proofs.MachineSafety
import IpTools.Proofs.ProbeOrder
import IpTools.Proofs.Readdressing
import IpTools.Proofs.RecordExtents
import IpTools.Proofs.RecordText
import IpTools.Proofs.RepeatVerdicts
import IpTools.Proofs.ReportColour
import IpTools.Proofs.ReportControl
import IpTools.Proofs.RequestHeaders
import IpTools.Proofs.ResponseTtl
import IpTools.Proofs.ReverseZones
import IpTools.Proofs.RouteAggregation
import IpTools.Proofs.SharedLimit
import IpTools.Proofs.StrictModes
import IpTools.Cli.RunDiagnose
import IpTools.Proofs.DiagnosePipeline
import IpTools.Library.Numerals
import IpTools.Proofs.AddressText
import IpTools.Cli.Dns
import IpTools.Cli.Inputs
import IpTools.Proofs.DnsSweep
import IpTools.Proofs.DiagnoseSweep
import IpTools.Proofs.DiagnoseFlags
import IpTools.Proofs.CommandInputs
import IpTools.Proofs.RouteTrace
import IpTools.Proofs.RoutePath
import IpTools.Cli.Route
import IpTools.Proofs.RouteCommand
import IpTools.Proofs.RouteCsv
import IpTools.Cli.Expectation
import IpTools.Proofs.Expectations
import IpTools.Cli.Progress
import IpTools.Proofs.ProgressRows
import IpTools.Proofs.ExpectedBodies
import IpTools.Proofs.PortHint
import IpTools.Cli.DiagnoseCsv
import IpTools.Proofs.DiagnoseCsv

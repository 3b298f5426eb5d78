import ImportBoundary.Host.Disk
import ImportBoundary.Main
import ImportBoundary.Proofs.Cache.Session
import ImportBoundary.Proofs.Evaluation.Findings
import ImportBoundary.Proofs.Evaluation.Verdict
import ImportBoundary.Proofs.Judgement.Rule
import ImportBoundary.Proofs.Judgement.Blame
import ImportBoundary.Proofs.Judgement.Relaxation
import ImportBoundary.Proofs.Judgement.External
import ImportBoundary.Proofs.Judgement.Encapsulation
import ImportBoundary.Proofs.Judgement.Uninvolved
import ImportBoundary.Proofs.Report.Annotation
import ImportBoundary.Proofs.Json.Numeral
import ImportBoundary.Proofs.Json.Token
import ImportBoundary.Proofs.Json.Document
import ImportBoundary.Proofs.Json.Canonical
import ImportBoundary.Proofs.Json.Record
import ImportBoundary.Proofs.Time.Timestamp
import ImportBoundary.Proofs.Finding.Codec
import ImportBoundary.Proofs.Report.Codec
import ImportBoundary.Proofs.Report.RoundTrip
import ImportBoundary.Proofs.Path.Canonical
import ImportBoundary.Proofs.Path.Reached
import ImportBoundary.Proofs.Path.Below
import ImportBoundary.Proofs.Edge.Spelling
import ImportBoundary.Proofs.Evaluation.Reordering
import ImportBoundary.Proofs.Json.Reordered
import ImportBoundary.Proofs.Config.Codec
import ImportBoundary.Proofs.Run
import ImportBoundary.Proofs.Evaluation.Independence
import ImportBoundary.Proofs.Cache.History
import ImportBoundary.Proofs.Judgement.Siblings
import ImportBoundary.Proofs.Host.Disk
import ImportBoundary.Proofs.CommandLine.Check
import ImportBoundary.Proofs.Host.Rewrite
import ImportBoundary.Proofs.Judgement.Grounds
import ImportBoundary.Proofs.Settings.Resolve
import ImportBoundary.Proofs.Layer.Children
import ImportBoundary.Proofs.Module.Directory
import ImportBoundary.Proofs.Template
import ImportBoundary.Proofs.Finding.Fingerprint
import ImportBoundary.Proofs.Evaluation.Figures
import ImportBoundary.Proofs.Path.Composition
import ImportBoundary.Proofs.Path.Relative
import ImportBoundary.Proofs.Report.Markdown
import ImportBoundary.Proofs.Layer.Messages
import ImportBoundary.Proofs.Edge.Resolution
import ImportBoundary.Proofs.Judgement.Calls

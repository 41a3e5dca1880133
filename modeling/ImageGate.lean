import ImageGate.Main
import ImageGate.Proofs.Text.ByteOrder
import ImageGate.Proofs.History.Table
import ImageGate.Proofs.History.Row
import ImageGate.Proofs.Time.Instant
import ImageGate.Proofs.History.Run
import ImageGate.Proofs.History.Evidence
import ImageGate.Proofs.History.LastReport
import ImageGate.Proofs.Text.Cut
import ImageGate.Proofs.Reference.Grammar
import ImageGate.Proofs.Reference.RoundTrip
import ImageGate.Proofs.Policy.Rolling
import ImageGate.Proofs.Text.Reading
import ImageGate.Proofs.Text.Digits
import ImageGate.Proofs.History.Numbers
import ImageGate.Proofs.Policy.FirstFit
import ImageGate.Proofs.History.Interleaving
import ImageGate.Proofs.Constraint.Meaning
import ImageGate.Proofs.Constraint.Reading
import ImageGate.Proofs.Constraint.Parsing
import ImageGate.Proofs.History.Rollback
import ImageGate.Proofs.Policy.Inspection
import ImageGate.Proofs.Policy.Mutation
import ImageGate.Proofs.Time.Calendar
import ImageGate.Proofs.Time.Stamp
import ImageGate.Proofs.Record.Reading
import ImageGate.Proofs.Yaml.ReadBack
import ImageGate.Proofs.Rule.Reading
import ImageGate.Proofs.Rule.Reload
import ImageGate.Proofs.Version.Reading
import ImageGate.Proofs.Constraint.Language
import ImageGate.Proofs.Constraint.Acceptance
import ImageGate.Proofs.Constraint.Exact
import ImageGate.Proofs.History.LiveView
import ImageGate.Proofs.Policy.Rejected
import ImageGate.Proofs.Version.Tags
import ImageGate.Proofs.Policy.RecordedDigest
import ImageGate.Proofs.History.Sweeping
import ImageGate.Proofs.Version.Precedence
import ImageGate.Proofs.Constraint.Comparators
import ImageGate.Proofs.Constraint.Demands
import ImageGate.Proofs.Constraint.Prerelease
import ImageGate.Proofs.History.Windows
import ImageGate.Proofs.History.Batch
import ImageGate.Proofs.History.Views
import ImageGate.Proofs.Policy.ClosedRules
import ImageGate.Proofs.Policy.EvidenceKeys
import ImageGate.Proofs.Settings.Loading
import ImageGate.Proofs.Display.Age

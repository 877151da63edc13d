import Conformance.Main
import Conformance.Rule.Library
import Conformance.Proofs.Baseline.History
import Conformance.Proofs.Baseline.Session
import Conformance.Proofs.Facts.Building
import Conformance.Proofs.Package.Slice
import Conformance.Proofs.Report.Isolation
import Conformance.Proofs.Report.SameFacts
import Conformance.Proofs.Rule.Distinct
import Conformance.Proofs.Rule.Exclusion
import Conformance.Proofs.Rule.Reading
import Conformance.Proofs.Rule.Soundness
import Conformance.Proofs.Baseline.Steady
import Conformance.Proofs.Report.Recording
import Conformance.Proofs.Report.Repetition
import Conformance.Proofs.Baseline.Refreezing
import Conformance.Proofs.Report.Views
import Conformance.Proofs.Rule.Restriction
import Conformance.Proofs.Rule.Succession
import Conformance.Proofs.Baseline.Canonical
import Conformance.Proofs.Predicate.Denotation
import Conformance.Proofs.Facts.Overloads
import Conformance.Proofs.Facts.Schema
import Conformance.Proofs.Predicate.Wording
import Conformance.Proofs.Rule.Rewording
import Conformance.Proofs.Baseline.Creation
import Conformance.Proofs.Baseline.FileNames
import Conformance.Proofs.Rule.Formation
import Conformance.Proofs.Settings
import Conformance.Proofs.Report.Cancellation
import Conformance.Proofs.Package.Repetition
import Conformance.Proofs.Facts.Nulls
import Conformance.Proofs.Number.Lines
import Conformance.Proofs.Template.Lines
import Conformance.Proofs.Rule.Lines
import Conformance.Proofs.Report.Lines

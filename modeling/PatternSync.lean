import PatternSync.Crd.Admission
import PatternSync.Main
import PatternSync.Operator.Access
import PatternSync.Operator.Program
import PatternSync.Proofs.Convergence
import PatternSync.Proofs.Deletion
import PatternSync.Proofs.Interleaving
import PatternSync.Proofs.Neighbours
import PatternSync.Proofs.NullFree
import PatternSync.Proofs.Spared
import PatternSync.Proofs.Unmanaged
import PatternSync.Proofs.Automation
import PatternSync.Proofs.FinalizerPatch
import PatternSync.Proofs.Verdict
import PatternSync.Proofs.WriteCount
import PatternSync.Proofs.Reports
import PatternSync.Proofs.LastError
import PatternSync.Proofs.Release
import PatternSync.Proofs.Retry
import PatternSync.Proofs.Guards
import PatternSync.Proofs.Lifecycle
import PatternSync.Proofs.Transitions
import PatternSync.Proofs.WriteBack
import PatternSync.Proofs.Deployed
import PatternSync.Proofs.MergedParameters
import PatternSync.Proofs.Repair
import PatternSync.Proofs.DriftReport
import PatternSync.Proofs.ReportedChange
import PatternSync.Proofs.GeneratedParameters
import PatternSync.Proofs.LayeredValueFiles
import PatternSync.Proofs.DerivedFacts
import PatternSync.Proofs.RejectedSettings
import PatternSync.Proofs.AdmittedPatterns
import PatternSync.Proofs.ParameterUpdates
import PatternSync.Proofs.FailureLabels

import Divert.Faults
import Divert.Inspect
import Divert.Main
import Divert.Proofs.Rule.Ports
import Divert.Proofs.Script.Run
import Divert.Proofs.Script.Calls
import Divert.Proofs.Filter.Memory
import Divert.Proofs.Filter.Answers
import Divert.Proofs.Redirects.Record
import Divert.Proofs.Lifecycle.Parts
import Divert.Proofs.Lifecycle.Settled
import Divert.Proofs.Redirects.Settled
import Divert.Proofs.Deployment
import Divert.Proofs.Standing
import Divert.Proofs.Mirror
import Divert.Proofs.Redirects.Written
import Divert.Proofs.Commands
import Divert.Proofs.SingleRule
import Divert.Proofs.Refinement
import Divert.Proofs.Filter.Hooks
import Divert.Proofs.HookWindow
import Divert.Proofs.CleanReports
import Divert.Proofs.Filter.Alike
import Divert.Proofs.Isolation
import Divert.Proofs.Redirects.Turns
import Divert.Proofs.Filter.Jumps
import Divert.Proofs.Text.Pieces
import Divert.Proofs.Recovery
import Divert.Proofs.Rule.Arguments
import Divert.Proofs.Lifecycle.Effect
import Divert.Proofs.Convergence
import Divert.Proofs.Config.Valid
import Divert.Proofs.DryRun
import Divert.Proofs.Json.Spelling
import Divert.Proofs.Json.Numerals
import Divert.Proofs.Json.Strings
import Divert.Proofs.Json.Written
import Divert.Proofs.Net.Address
import Divert.Proofs.Config.RoundTrip
import Divert.Proofs.Lifecycle.Course
import Divert.Proofs.Filter.Ledger
import Divert.Proofs.Replacement
import Divert.Proofs.Redirects.Reordering
import Divert.Proofs.Filter.Frame
import Divert.Proofs.Config.Violations
import Divert.Proofs.Config.Sources
import Divert.Proofs.Json.Grammar
import Divert.Proofs.Json.Members
import Divert.Proofs.Config.Alike
import Divert.Proofs.Net.Destination
import Divert.Proofs.Report.Account
import Divert.Proofs.Redirects.Snapshot
import Divert.Proofs.Filter.Naming
import Divert.Proofs.Filter.Identity

import Admission.Main
import Admission.Server
import Admission.Proofs.Gate.Permits
import Admission.Proofs.Gate.World
import Admission.Proofs.Gate.Machine
import Admission.Proofs.Gate.Outcome
import Admission.Proofs.Gate.History
import Admission.Proofs.Burst.Ending
import Admission.Proofs.Burst.Law
import Admission.Proofs.Gate.Refinement
import Admission.Proofs.Gate.Refusal
import Admission.Proofs.Gate.Settled
import Admission.Proofs.Gate.Precedence
import Admission.Proofs.Gate.Accounting
import Admission.Proofs.Gate.Interleaving
import Admission.Proofs.Gate.Unfolding
import Admission.Proofs.Gate.Frame
import Admission.Proofs.Session.Run
import Admission.Proofs.Session.Turn
import Admission.Proofs.Session.Sound
import Admission.Proofs.Session.Handlers
import Admission.Proofs.Session.Arming
import Admission.Proofs.Session.Waiting
import Admission.Proofs.Session.Lineage
import Admission.Proofs.Http.Frame
import Admission.Proofs.Session.Deadline
import Admission.Proofs.Session.Recast
import Admission.Proofs.Session.Unaccompanied
import Admission.Proofs.Session.Orphans
import Admission.Proofs.Session.Driven
import Admission.Proofs.Session.Settling
import Admission.Proofs.Session.Silence
import Admission.Proofs.Config.Bounds
import Admission.Proofs.Config.Limits
import Admission.Proofs.Config.Layering
import Admission.Proofs.Config.Levels
import Admission.Proofs.Config.Startup
import Admission.Proofs.Context.Done
import Admission.Proofs.Session.Account
import Admission.Proofs.Session.Ledger
import Admission.Proofs.Session.Mirror
import Admission.Proofs.Http.Refusal
import Admission.Proofs.Session.Answers
import Admission.Proofs.Session.Refused
import Admission.Proofs.Gate.Renumbered
import Admission.Proofs.Session.Bystander
import Admission.Proofs.Session.Exchange
import Admission.Proofs.Json.Tokens
import Admission.Proofs.Json.Written
import Admission.Proofs.Json.Conforming
import Admission.Proofs.Json.RoundTrip
import Admission.Proofs.CommandLine.Limits

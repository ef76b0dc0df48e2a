import Turnstile.Line.Lemmas
import Turnstile.Log.Filter
import Turnstile.Main
import Turnstile.Proofs.Gate.Grounds
import Turnstile.Proofs.Gate.Precedence
import Turnstile.Proofs.Gate.Quota
import Turnstile.Proofs.Gate.Verdict
import Turnstile.Proofs.Gate.Scarcity
import Turnstile.Proofs.Gate.Watch
import Turnstile.Proofs.Gate.Rest
import Turnstile.Proofs.Gate.Task
import Turnstile.Proofs.Gate.Plan
import Turnstile.Proofs.Gate.Concurrence
import Turnstile.Proofs.Gate.Withdrawal
import Turnstile.Proofs.Gate.Slots
import Turnstile.Proofs.Gateway.Quota
import Turnstile.Proofs.Registry.Shutdown
import Turnstile.Proofs.Desk.Tally
import Turnstile.Proofs.Gateway.Faultless
import Turnstile.Proofs.Wire.Config
import Turnstile.Proofs.Wire.Queue
import Turnstile.Proofs.Desk.Ungrouped
import Turnstile.Proofs.Gate.Rollover
import Turnstile.Proofs.Line.Service
import Turnstile.Proofs.Policy.Exact
import Turnstile.Proofs.Line.Counts
import Turnstile.Proofs.Gate.Pace
import Turnstile.Proofs.Request
import Turnstile.Proofs.Registry.Gauge
import Turnstile.Proofs.Registry.Listing
import Turnstile.Proofs.Config.Demands
import Turnstile.Proofs.Config.Load
import Turnstile.Proofs.Desk.Priority

import RowStream.Config.Json
import RowStream.Config.Overrides
import RowStream.Config.Toml
import RowStream.LogFormat
import RowStream.Main
import RowStream.Protocol.Walk
import RowStream.Registry
import RowStream.Scenario
import RowStream.Proofs.Retry.Induction
import RowStream.Proofs.Retry.Counting
import RowStream.Proofs.Store.Log
import RowStream.Proofs.Store.Names
import RowStream.Proofs.Client.Recorded
import RowStream.Proofs.Client.Serving
import RowStream.Proofs.Session.Course
import RowStream.Proofs.Session.Representation
import RowStream.Proofs.Session.Invariance
import RowStream.Proofs.Client.Confined
import RowStream.Proofs.Client.Logged
import RowStream.Proofs.Session.Account
import RowStream.Proofs.Session.Transcript
import RowStream.Proofs.Session.ExactlyOnce
import RowStream.Proofs.Simulation.NoViolation
import RowStream.Proofs.Protocol.Deed
import RowStream.Proofs.Protocol.Refinement
import RowStream.Proofs.Protocol.Safety
import RowStream.Proofs.Session.View
import RowStream.Proofs.Session.WireOrder
import RowStream.Proofs.Session.Naming
import RowStream.Proofs.Session.Conclusion
import RowStream.Proofs.Session.Fleet
import RowStream.Proofs.Session.Termination
import RowStream.Proofs.Store.AppendOnly
import RowStream.Proofs.Simulation.Rerun
import RowStream.Proofs.Registry.Sharing
import RowStream.Proofs.Session.Renaming
import RowStream.Proofs.Store.Written
import RowStream.Proofs.Session.Portable
import RowStream.Proofs.Session.Isolation
import RowStream.Proofs.Row.Packing
import RowStream.Proofs.Session.Coherence
import RowStream.Proofs.Session.Closure
import RowStream.Proofs.Session.Batching
import RowStream.Proofs.Session.Cancellation
import RowStream.Proofs.Session.Failure
import RowStream.Proofs.Retry.Journal
import RowStream.Proofs.Retry.Outcome
import RowStream.Proofs.Retry.Schedule
import RowStream.Proofs.Retry.Ending
import RowStream.Proofs.Retry.Cap
import RowStream.Proofs.Retry.ZeroDelay
import RowStream.Proofs.Session.Payload
import RowStream.Proofs.Session.Statistics
import RowStream.Proofs.Session.Attempts
import RowStream.Proofs.Client.Accounting
import RowStream.Proofs.Fault.Inquiry
import RowStream.Proofs.Store.Catalogue
import RowStream.Proofs.Simulation.Tallies
import RowStream.Proofs.Simulation.Calm
import RowStream.Proofs.Protocol.Offers
import RowStream.Proofs.Protocol.Exploration
import RowStream.Proofs.Simulation.Plans
import RowStream.Proofs.Json.Strings
import RowStream.Proofs.Json.Numerals
import RowStream.Proofs.Json.Documents
import RowStream.Proofs.Binary64.Determined
import RowStream.Proofs.Binary64.Scientific
import RowStream.Proofs.Binary64.Bits
import RowStream.Proofs.Json.Floats
import RowStream.Proofs.Config.RoundTrip

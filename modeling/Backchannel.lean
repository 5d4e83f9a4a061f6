import Backchannel.Completion.Request
import Backchannel.Config
import Backchannel.Http.Client
import Backchannel.LogFilter
import Backchannel.Plugin.Action
import Backchannel.Url.Parser
import Backchannel.Main
import Backchannel.Proofs.Session.Registry
import Backchannel.Proofs.Session.Delivery
import Backchannel.Proofs.Session.Closing
import Backchannel.Proofs.Release
import Backchannel.Proofs.Plugin.Runs
import Backchannel.Proofs.Config
import Backchannel.Proofs.Session.Apart
import Backchannel.Proofs.Session.Overlap.Escape
import Backchannel.Proofs.Session.Tasks.Close
import Backchannel.Proofs.Frame
import Backchannel.Proofs.Session.Outbound
import Backchannel.Proofs.Session.Inbound
import Backchannel.Proofs.Backends
import Backchannel.Proofs.Session.Deadline
import Backchannel.Proofs.Session.Contest.First
import Backchannel.Proofs.Plugin.Flight
import Backchannel.Proofs.Interpretation
import Backchannel.Proofs.Received
import Backchannel.Proofs.Session.Effect
import Backchannel.Proofs.Http.Transfer
import Backchannel.Proofs.Http.GivenUp
import Backchannel.Proofs.Typed
import Backchannel.Proofs.Timing.History
import Backchannel.Proofs.Session.Tasks.Sweeping
import Backchannel.Proofs.Session.Reported
import Backchannel.Proofs.Entities
import Backchannel.Proofs.Completion.Payload
import Backchannel.Proofs.Storage
import Backchannel.Proofs.StoredBytes
import Backchannel.Proofs.Transport
import Backchannel.Proofs.Plugin.Cadence

import BoundedPipelining.Admission.Gates
import BoundedPipelining.Channel.Handles
import BoundedPipelining.Exchange.Held
import BoundedPipelining.Main
import BoundedPipelining.Proofs.Admission.IdleWaits
import BoundedPipelining.Proofs.Channel.Serving
import BoundedPipelining.Proofs.Channel.Watches
import BoundedPipelining.Proofs.Connection.Cause
import BoundedPipelining.Proofs.Connection.Conservation
import BoundedPipelining.Proofs.Connection.GracefulClose
import BoundedPipelining.Proofs.Connection.Outstanding
import BoundedPipelining.Proofs.Connection.Payloads
import BoundedPipelining.Proofs.Connection.Phases
import BoundedPipelining.Proofs.Connection.SeenClose
import BoundedPipelining.Proofs.Demo.Reports
import BoundedPipelining.Proofs.Exchange.Calls
import BoundedPipelining.Proofs.Exchange.Holders
import BoundedPipelining.Proofs.Exchange.Line
import BoundedPipelining.Proofs.Exchange.Watchers
import BoundedPipelining.Proofs.Failure.Chains
import BoundedPipelining.Proofs.Lifecycle.Observing
import BoundedPipelining.Proofs.Lifecycle.Vanishing
import BoundedPipelining.Proofs.Message.CloseOption
import BoundedPipelining.Proofs.Settings.Loading
import BoundedPipelining.Proofs.Settings.Rules

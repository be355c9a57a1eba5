import Qlaster.Program
import Qlaster.RelyGuarantee
import Qlaster.LittleEndian
import Qlaster.ErrorCore
import Qlaster.TypesCore
import Qlaster.RoundTrip
import Qlaster.FilterCore
import Qlaster.Filter
import Qlaster.DropOldest
import Qlaster.ChannelCore
import Qlaster.Framing
import Qlaster.Reading
import Qlaster.Ring
import Qlaster.Wakeup
import Qlaster.SenderCore
import Qlaster.Registry
import Qlaster.Sender
import Qlaster.Evicting
import Qlaster.Dispatching
import Qlaster.Upserting
import Qlaster.Calling
import Qlaster.Slots
import Qlaster.Subscribing
import Qlaster.Delivery
import Qlaster.Closing
import Qlaster.Sequential
import Qlaster.PrefixCode
import Qlaster.Decoding
import Qlaster.Routing
import Qlaster.ControlCore
import Qlaster.Control
import Qlaster.HandshakeCore
import Qlaster.Handshake
import Qlaster.Serving
import Qlaster.Isolation
import Qlaster.Watching
import Qlaster.Keepalive
import Qlaster.LinkCore
import Qlaster.Link
import Qlaster.Linking
import Qlaster.Wire
import Qlaster.Handling
import Qlaster.Setup
import Qlaster.Asking
import Qlaster.Agreement
import Qlaster.Adoption
import Qlaster.MetricsCore
import Qlaster.Accumulator
import Qlaster.Metrics
import Qlaster.Snapshots
import Qlaster.StreamCore
import Qlaster.Stream
import Qlaster.Simulation
import Qlaster.SelfPipeCore
import Qlaster.SelfPipe
import Qlaster.Backends
import Qlaster.Cells
import Qlaster.Sweeping
import Qlaster.Provisioning
import Qlaster.Composed
import Qlaster.Hosting
import Qlaster.Refining
import Qlaster.Broadcast
import Qlaster.Routine
import Qlaster.FeedCore
import Qlaster.Feed
import Qlaster.Reclaiming
import Qlaster.Progress
import Qlaster.Parking
import Qlaster.Delivering
import Qlaster.Tabling
import Qlaster.Accounting
import Qlaster.Arrival
import Qlaster.Talking
import Qlaster.Session
import Qlaster.Connecting
import Qlaster.Echoing
import Qlaster.Standing
import Qlaster.Publishing

import Framewire.CommandLine.Outcome
import Framewire.Main
import Framewire.Proofs.EchoLaw
import Framewire.Proofs.FramerRuns
import Framewire.Proofs.PoolOrder
import Framewire.Proofs.PoolSlots
import Framewire.Proofs.SessionTraffic
import Framewire.Proofs.WireFormat
import Framewire.Proofs.ConnectorLife
import Framewire.Proofs.IdleSessions
import Framewire.Proofs.Restart
import Framewire.Proofs.ConnectionEnds
import Framewire.Proofs.Calls
import Framewire.Proofs.CallMoves
import Framewire.Proofs.CallerMoves
import Framewire.Proofs.ExchangeLaw
import Framewire.Proofs.SinkDelivery
import Framewire.Proofs.ClosedPool
import Framewire.Proofs.Startable
import Framewire.Proofs.ErrandLaw
import Framewire.Proofs.Completion
import Framewire.Proofs.StaleSlots
import Framewire.Proofs.FailingDials
import Framewire.Proofs.HexText
import Framewire.Proofs.IdleClock
import Framewire.Proofs.Signals
import Framewire.Proofs.KeyPlaces
import Framewire.Proofs.Overlay

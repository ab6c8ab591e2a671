import Flowmeter.Main
import Flowmeter.Decimal.Written
import Flowmeter.Launch.Shutdown
import Flowmeter.Machine.Program
import Flowmeter.Machine.Sockets
import Flowmeter.Names.Resolver
import Flowmeter.EventLog.Logger
import Flowmeter.Replay
import Flowmeter.Proofs.Attribution.Accounting
import Flowmeter.Proofs.Inventory.Holders
import Flowmeter.Proofs.Attribution.Routing
import Flowmeter.Proofs.Attribution.Bytes
import Flowmeter.Proofs.Attribution.Conservation
import Flowmeter.Proofs.Exchange.Pipeline
import Flowmeter.Proofs.Attribution.Merging
import Flowmeter.Proofs.Exchange.Skew
import Flowmeter.Proofs.Monitor.Pausing
import Flowmeter.Proofs.Attribution.Directions
import Flowmeter.Proofs.Inventory.Canonical
import Flowmeter.Proofs.Names.Background
import Flowmeter.Proofs.EventLog.Delivery
import Flowmeter.Proofs.Packet.Decoding
import Flowmeter.Proofs.Files.Keeping
import Flowmeter.Proofs.Json.Reading
import Flowmeter.Proofs.Settings.RoundTrip
import Flowmeter.Proofs.Text.Unicode
import Flowmeter.Proofs.Settings.Persistence
import Flowmeter.Proofs.Session.Loop
import Flowmeter.Proofs.Monitor.Supervision
import Flowmeter.Proofs.Text.Columns
import Flowmeter.Proofs.Address.KernelForm
import Flowmeter.Proofs.Socket.Layout
import Flowmeter.Proofs.Socket.Winning
import Flowmeter.Proofs.Inventory.Failing
import Flowmeter.Proofs.View.Order
import Flowmeter.Proofs.Screen.Listing
import Flowmeter.Proofs.Attribution.Room
import Flowmeter.Proofs.Inventory.Sharing
import Flowmeter.Proofs.Traffic.Shares
import Flowmeter.Proofs.Address.Written
import Flowmeter.Proofs.EventLog.Flow
import Flowmeter.Proofs.Settings.Overlay
import Flowmeter.Proofs.CommandLine.Given
import Flowmeter.Proofs.Settings.Precedence
import Flowmeter.Proofs.Json.Spelling
import Flowmeter.Proofs.Settings.Grammar
import Flowmeter.Proofs.Settings.Partial
import Flowmeter.Proofs.CommandLine.Spelling
import Flowmeter.Proofs.Screen.Overlay
import Flowmeter.Proofs.EventLog.Chronology
import Flowmeter.Proofs.Inventory.Slots
import Flowmeter.Proofs.Text.Truncation

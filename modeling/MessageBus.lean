import MessageBus.Log.Entry
import MessageBus.Loop.Tagged
import MessageBus.Main
import MessageBus.Proofs.Address.Codec
import MessageBus.Proofs.Address.Refusal
import MessageBus.Proofs.Announcement.Requests
import MessageBus.Proofs.CommandLine.Decisive
import MessageBus.Proofs.CommandLine.Naming
import MessageBus.Proofs.CommandLine.Restart
import MessageBus.Proofs.Context.Announced
import MessageBus.Proofs.Context.Clearing
import MessageBus.Proofs.Context.Connections
import MessageBus.Proofs.Context.References
import MessageBus.Proofs.Daemon.Restart
import MessageBus.Proofs.Ledger.Slot
import MessageBus.Proofs.Ledger.Tracking
import MessageBus.Proofs.Listener.Checked
import MessageBus.Proofs.Loop.Closing
import MessageBus.Proofs.Report.Verbatim
import MessageBus.Proofs.Settings.Agreement
import MessageBus.Proofs.Traffic.Service

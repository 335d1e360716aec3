import LogicAnalyzer.Main
import LogicAnalyzer.Proofs.Capture.Acceptance
import LogicAnalyzer.Proofs.Capture.Boundaries
import LogicAnalyzer.Proofs.Capture.Buffers
import LogicAnalyzer.Proofs.Capture.Calls
import LogicAnalyzer.Proofs.Capture.ClockAgreement
import LogicAnalyzer.Proofs.Capture.Closing
import LogicAnalyzer.Proofs.Capture.Configuration
import LogicAnalyzer.Proofs.Capture.Conveyance
import LogicAnalyzer.Proofs.Capture.Corruption
import LogicAnalyzer.Proofs.Capture.CutShort
import LogicAnalyzer.Proofs.Capture.Draining
import LogicAnalyzer.Proofs.Capture.EndToEnd
import LogicAnalyzer.Proofs.Capture.FailedStart
import LogicAnalyzer.Proofs.Capture.Genuine
import LogicAnalyzer.Proofs.Capture.History
import LogicAnalyzer.Proofs.Capture.Memory
import LogicAnalyzer.Proofs.Capture.Pairing
import LogicAnalyzer.Proofs.Capture.Protocol
import LogicAnalyzer.Proofs.Capture.Reconfiguring
import LogicAnalyzer.Proofs.Capture.Refusals
import LogicAnalyzer.Proofs.Capture.Runs
import LogicAnalyzer.Proofs.Capture.Shutdown
import LogicAnalyzer.Proofs.Capture.Strays
import LogicAnalyzer.Proofs.Capture.Withdrawals
import LogicAnalyzer.Proofs.Channel.Finite
import LogicAnalyzer.Proofs.Device.Endings
import LogicAnalyzer.Proofs.Device.Faults
import LogicAnalyzer.Proofs.Program.Summary
import LogicAnalyzer.Proofs.Session.Options
import LogicAnalyzer.Proofs.Stream.Accounting
import LogicAnalyzer.Proofs.Stream.Filters
import LogicAnalyzer.Proofs.Stream.RoundTrip
import LogicAnalyzer.Proofs.Transfer.Balance
import LogicAnalyzer.Proofs.Transfer.Calls
import LogicAnalyzer.Proofs.Transfer.Ledger
import LogicAnalyzer.Proofs.Transfer.LostReads
import LogicAnalyzer.Proofs.Trigger.Described
import LogicAnalyzer.Proofs.Trigger.Latest
import LogicAnalyzer.Proofs.Trigger.Settings
import LogicAnalyzer.Proofs.Trigger.Steps
import LogicAnalyzer.Proofs.Wire.Commands
import LogicAnalyzer.Transfer.Injection

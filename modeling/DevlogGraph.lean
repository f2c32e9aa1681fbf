import DevlogGraph.Assembly
import DevlogGraph.Ledger.File
import DevlogGraph.Logging.Setup
import DevlogGraph.Record.LogEntry
import DevlogGraph.Record.Settings
import DevlogGraph.Settings.File
import DevlogGraph.Proofs.Decimal.Digits
import DevlogGraph.Proofs.Ledger.History
import DevlogGraph.Proofs.Ledger.Overlap
import DevlogGraph.Proofs.Ledger.Recorded
import DevlogGraph.Proofs.Ledger.Search
import DevlogGraph.Proofs.Ledger.Stated
import DevlogGraph.Proofs.Key
import DevlogGraph.Proofs.Merge.Survivor
import DevlogGraph.Proofs.Model.Compact
import DevlogGraph.Proofs.Model.Outcome
import DevlogGraph.Proofs.Pattern.LineForm
import DevlogGraph.Proofs.Pattern.Backtracking
import DevlogGraph.Proofs.Pattern.Lines
import DevlogGraph.Proofs.Pipeline.Cancellation
import DevlogGraph.Proofs.Pipeline.Lookup
import DevlogGraph.Proofs.Pipeline.Override
import DevlogGraph.Proofs.Record.Stored
import DevlogGraph.Proofs.Settings.Primary
import DevlogGraph.Proofs.Pattern.Report
import DevlogGraph.Proofs.Model.Verdict
import DevlogGraph.Proofs.Model.Fence
import DevlogGraph.Proofs.Json.Grammar
import DevlogGraph.Proofs.Json.Similar
import DevlogGraph.Proofs.Json.SteadySkip
import DevlogGraph.Proofs.Json.Trailing
import DevlogGraph.Proofs.Service.Chunks
import DevlogGraph.Proofs.Service.Endpoint

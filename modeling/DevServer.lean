import DevServer.Build.Project
import DevServer.Http.Service
import DevServer.Main
import DevServer.Program.Table
import DevServer.Reload.Fault
import DevServer.Restart.ChangeGate
import DevServer.Restart.Schedule
import DevServer.Shutdown
import DevServer.Worker.Supervisor
import DevServer.Files.Standard
import DevServer.Proofs.Restart.Exclusion
import DevServer.Proofs.Restart.Run
import DevServer.Proofs.Restart.Order
import DevServer.Proofs.Restart.Announcement
import DevServer.Proofs.Restart.Fates
import DevServer.Proofs.Restart.Tasks
import DevServer.Proofs.Restart.ClientBuilds
import DevServer.Proofs.Restart.Steps
import DevServer.Proofs.Restart.ClientAnnouncements
import DevServer.Proofs.Restart.Accounting
import DevServer.Proofs.Restart.Fairness
import DevServer.Proofs.Restart.Shutdown
import DevServer.Proofs.Restart.Views
import DevServer.Proofs.Restart.Rest
import DevServer.Proofs.Restart.Service
import DevServer.Proofs.Restart.AtRest
import DevServer.Proofs.Change.Pending
import DevServer.Proofs.Change.NetChange
import DevServer.Proofs.Restart.Serving
import DevServer.Proofs.Restart.OneServer
import DevServer.Proofs.Restart.Core
import DevServer.Proofs.Restart.CoreSteps
import DevServer.Proofs.Restart.Clock
import DevServer.Proofs.Restart.CoreInputs
import DevServer.Proofs.Restart.Sessions
import DevServer.Proofs.Restart.Independence
import DevServer.Proofs.Source.Trivia
import DevServer.Proofs.Source.Directives
import DevServer.Proofs.Change.Batch
import DevServer.Proofs.Change.Timeline
import DevServer.Proofs.Build.Moves
import DevServer.Proofs.Build.Rounds
import DevServer.Proofs.Restart.Dispatch
import DevServer.Proofs.Restart.Handling
import DevServer.Proofs.Restart.ClientOrder
import DevServer.Proofs.Reload.Usage
import DevServer.Proofs.Reload.Reader
import DevServer.Proofs.Reload.Buffer
import DevServer.Proofs.Reload.Delivery
import DevServer.Proofs.Http.Patterns
import DevServer.Proofs.Startup.Starting
import DevServer.Proofs.Settings.Keys
import DevServer.Proofs.Settings.Documents
import DevServer.Proofs.Settings.Additions
import DevServer.Proofs.Settings.Defaults
import DevServer.Proofs.Settings.Variables
import DevServer.Proofs.Change.Fold
import DevServer.Proofs.Change.Quiet
import DevServer.Proofs.Worker.Lives
import DevServer.Proofs.Change.Waking
import DevServer.Proofs.Source.Expressions
import DevServer.Proofs.Reload.Counting
import DevServer.Proofs.Json.Grammar
import DevServer.Proofs.Json.Tokens
import DevServer.Proofs.Json.Values
import DevServer.Proofs.Json.Doubles
import DevServer.Proofs.Worker.Handshake
import DevServer.Proofs.Worker.Stopping
import DevServer.Proofs.Text.Utf8
import DevServer.Proofs.Change.ServerImpact
import DevServer.Proofs.Json.Writing
import DevServer.Proofs.Reload.Wire
import DevServer.Proofs.Calendar.Dates
import DevServer.Proofs.Calendar.Timestamps
import DevServer.Proofs.Build.Record

/-!
# A dev server

Builds, restarts of a worker and reload events, with the settings, the command line and the start of
the server (`Main`), and under `Proofs` what holds of them in every run.

The modules under `Shell` and `Program`, and `Files.Standard`, are no part of the server. They stand
for the machine's own programs that the commands of builds and workers run, so that such a command can
be followed to its end: `Build.Project` and `Worker.Supervisor` are given them as `Process.Programs`.
`Main` does not need them, and what is proved holds whatever the programs are.
-/

import LoadMonitor.Main
import LoadMonitor.Proofs.Client.Bodies
import LoadMonitor.Proofs.Client.Checkup
import LoadMonitor.Proofs.Client.Endpoint
import LoadMonitor.Proofs.Client.Refusal
import LoadMonitor.Proofs.Dashboard.Contents
import LoadMonitor.Proofs.Dashboard.ErrorLine
import LoadMonitor.Proofs.Dashboard.Grouping
import LoadMonitor.Proofs.Dashboard.Survival
import LoadMonitor.Proofs.Dashboard.Truncation
import LoadMonitor.Proofs.Dashboard.Uptime
import LoadMonitor.Proofs.Demo.Precheck
import LoadMonitor.Proofs.Demo.Remaining
import LoadMonitor.Proofs.Demo.Return
import LoadMonitor.Proofs.Load.Exact
import LoadMonitor.Proofs.Load.Logbook
import LoadMonitor.Proofs.Load.Outcome
import LoadMonitor.Proofs.Load.Reproduction
import LoadMonitor.Proofs.Log.Wellformed
import LoadMonitor.Proofs.Random.Fairness
import LoadMonitor.Proofs.Random.Proportion
import LoadMonitor.Proofs.Random.Widening
import LoadMonitor.Proofs.Report.Average
import LoadMonitor.Proofs.Run.Solo
import LoadMonitor.Proofs.Run.Venture
import LoadMonitor.Proofs.Run.Wakeup
import LoadMonitor.Proofs.Service.Projection
import LoadMonitor.Proofs.Service.Truncated
import LoadMonitor.Random.Scripted
import LoadMonitor.Rehearsal.Run
import LoadMonitor.Rehearsal.Script
import LoadMonitor.Run.Handles

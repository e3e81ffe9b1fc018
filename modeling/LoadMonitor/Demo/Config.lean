import LoadMonitor.Dashboard.Loop
import LoadMonitor.Load.Plan

/-!
# Settings

What a demo is run with.
-/

namespace LoadMonitor

/-- How the service is reached. -/
structure ClientConfig where
  baseUrl : String
  /-- The bound on every call but the liveness check. -/
  requestTimeout : Duration
  livenessTimeout : Duration
  deriving DecidableEq, Repr

namespace ClientConfig

def defaultUrl : String := "http://localhost:20002/api/v1"

def byDefault : ClientConfig := ⟨defaultUrl, .ofSecs 10, .ofSecs 2⟩

end ClientConfig

/-- The settings of a demo. -/
structure DemoConfig where
  client : ClientConfig
  webDashboardUrl : String
  plan : LoadPlan
  pacing : Pacing
  refresh : Duration
  /-- The seed of the random source; without one the source is seeded from entropy. -/
  seed : Option UInt64
  showSummary : Bool
  deriving Repr

namespace DemoConfig

def defaultWebDashboardUrl : String := "http://localhost:5173/monitoring"

def byDefault : DemoConfig :=
  ⟨.byDefault, defaultWebDashboardUrl, .byDefault, .byDefault, Dashboard.defaultRefresh, none, true⟩

/-- Logged at the beginning of a run. -/
def opening (c : DemoConfig) : Diagnostic :=
  .info ("Running monitoring demo against " ++ c.client.baseUrl)

end DemoConfig
end LoadMonitor

import LoadMonitor.Demo.Config

/-!
# Options

The options of the command line, and the settings that they make.
-/

namespace LoadMonitor

/-- The options that take a value. -/
inductive CliOption where
  | apiUrl
  | webDashboardUrl
  | normalDuration
  | highLoadDuration
  | slowQueries
  | recoveryDuration
  | refreshInterval
  | requestTimeout
  | seed
  deriving DecidableEq, Repr

namespace CliOption

def all : List CliOption :=
  [apiUrl, webDashboardUrl, normalDuration, highLoadDuration, slowQueries, recoveryDuration,
    refreshInterval, requestTimeout, seed]

/-- The name of an option, without the dashes before it. -/
def name : CliOption → String
  | apiUrl => "api-url"
  | webDashboardUrl => "web-dashboard-url"
  | normalDuration => "normal-duration"
  | highLoadDuration => "high-load-duration"
  | slowQueries => "slow-queries"
  | recoveryDuration => "recovery-duration"
  | refreshInterval => "refresh-interval-ms"
  | requestTimeout => "request-timeout-s"
  | seed => "seed"

/-- The option with the given name. Names are not abbreviated. -/
def ofName? (name : String) : Option CliOption := all.find? (·.name == name)

end CliOption

/-- What the user has set. -/
structure CliSettings where
  apiUrl : Option String
  webDashboardUrl : Option String
  normalDuration : Option Nat
  highLoadDuration : Option Nat
  slowQueries : Option Nat
  recoveryDuration : Option Nat
  refreshInterval : Option Nat
  requestTimeout : Option Nat
  seed : Option Nat
  noSummary : Bool
  deriving DecidableEq, Repr

namespace CliSettings

def empty : CliSettings := ⟨none, none, none, none, none, none, none, none, none, false⟩

/-- Whether an option was given. -/
def isSet (s : CliSettings) : CliOption → Bool
  | .apiUrl => s.apiUrl.isSome
  | .webDashboardUrl => s.webDashboardUrl.isSome
  | .normalDuration => s.normalDuration.isSome
  | .highLoadDuration => s.highLoadDuration.isSome
  | .slowQueries => s.slowQueries.isSome
  | .recoveryDuration => s.recoveryDuration.isSome
  | .refreshInterval => s.refreshInterval.isSome
  | .requestTimeout => s.requestTimeout.isSome
  | .seed => s.seed.isSome

/-- A natural number below `2 ^ 64`: decimal digits, perhaps after a plus sign. -/
def readNumber (text : String) : Option Nat :=
  let digits := match text.toList with
    | '+' :: rest => rest
    | all => all
  if digits.isEmpty || !digits.all Char.isDigit then none
  else
    let n := Binary64.digitsValue digits
    if n < Nat.pow 2 64 then some n else none

/-- A number that is not zero. -/
def readPositive (text : String) : Option Nat := (readNumber text).filter (0 < ·)

/-- Set an option, if it can have the value. -/
def set (s : CliSettings) (option : CliOption) (value : String) : Option CliSettings :=
  match option with
  | .apiUrl => some { s with apiUrl := some value }
  | .webDashboardUrl => some { s with webDashboardUrl := some value }
  | .normalDuration => (readNumber value).map fun n => { s with normalDuration := some n }
  | .highLoadDuration => (readNumber value).map fun n => { s with highLoadDuration := some n }
  | .slowQueries => (readNumber value).map fun n => { s with slowQueries := some n }
  | .recoveryDuration => (readNumber value).map fun n => { s with recoveryDuration := some n }
  | .refreshInterval => (readPositive value).map fun n => { s with refreshInterval := some n }
  | .requestTimeout => (readPositive value).map fun n => { s with requestTimeout := some n }
  | .seed => (readNumber value).map fun n => { s with seed := some n }

/-- The settings of a demo. What was not set has its default, except that the address of the
service is taken from the environment if it is given there. -/
def config (s : CliSettings) (environmentUrl : Option String) : DemoConfig :=
  { client := { ClientConfig.byDefault with
      baseUrl := (s.apiUrl <|> environmentUrl).getD ClientConfig.defaultUrl
      requestTimeout := .ofSecs (s.requestTimeout.getD 10) }
    webDashboardUrl := s.webDashboardUrl.getD DemoConfig.defaultWebDashboardUrl
    plan := .standard (.ofSecs (s.normalDuration.getD 60)) (.ofSecs (s.highLoadDuration.getD 30))
      (s.slowQueries.getD 10) (.ofSecs (s.recoveryDuration.getD 30))
    pacing := .byDefault
    refresh := .ofMillis (s.refreshInterval.getD 2000)
    seed := s.seed.map UInt64.ofNat
    showSummary := !s.noSummary }

end CliSettings
end LoadMonitor

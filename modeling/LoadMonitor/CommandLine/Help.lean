import LoadMonitor.CommandLine.Parser
import LoadMonitor.Text.ControlSequence

/-!
# The help text

What the program prints when it is asked for help. It is written for a terminal, with headings
and names set off, and printed without them.
-/

namespace LoadMonitor

namespace CliOption

/-- What an option is for. -/
def purpose : CliOption → String
  | apiUrl => "Base URL of the Click-Lite REST API"
  | webDashboardUrl => "Web dashboard to point the user at once the demo completes"
  | normalDuration => "Seconds of normal load at the start of the demo"
  | highLoadDuration => "Seconds of high load"
  | slowQueries => "Number of slow aggregation queries to submit"
  | recoveryDuration => "Seconds of normal load after the slow queries"
  | refreshInterval => "How often the dashboard refreshes, in milliseconds"
  | requestTimeout => "Timeout for each API call, in seconds"
  | seed => "Seed for the random generator so that a run can be reproduced"

/-- The default of an option as it is shown. -/
def shownDefault : CliOption → Option String
  | apiUrl => some ClientConfig.defaultUrl
  | webDashboardUrl => some DemoConfig.defaultWebDashboardUrl
  | normalDuration => some "60"
  | highLoadDuration => some "30"
  | slowQueries => some "10"
  | recoveryDuration => some "30"
  | refreshInterval => some "2000"
  | requestTimeout => some "10"
  | seed => none

/-- The placeholder for the value of an option: its name in capitals. -/
def placeholder (o : CliOption) : String :=
  (o.name.map fun c => if c = '-' then '_' else c).toUpper

end CliOption

namespace Help

/-- What a terminal is sent to show a name in bold. -/
def bold (name : String) : String := "\x1b[1m" ++ name ++ "\x1b[0m"

/-- What a terminal is sent to show a heading in bold and underlined. -/
def heading (title : String) : String := "\x1b[1m\x1b[4m" ++ title ++ "\x1b[0m"

/-- A text whose later lines are indented like the first one. -/
def indented (text : String) : String := "\n          ".intercalate (text.splitOn "\n")

/-- The line that names an option and the text below it. -/
def entry (flag text : String) : String := flag ++ "\n          " ++ indented text ++ "\n"

/-- The variable of the environment that stands in for the address of the service. -/
def environmentVariable : String := "CLICK_LITE_API_URL"

/-- What is said of an option beyond its purpose: the variable that stands in for it with
its present value, and its default. -/
def remarks (environmentUrl : Option String) (o : CliOption) : List String :=
  (if o = .apiUrl then
    ["[env: " ++ environmentVariable ++ "=" ++ environmentUrl.getD "" ++ "]"] else [])
  ++ match o.shownDefault with
    | some value => ["[default: " ++ value ++ "]"]
    | none => []

def optionEntry (environmentUrl : Option String) (o : CliOption) : String :=
  entry ("      " ++ bold ("--" ++ o.name) ++ " <" ++ o.placeholder ++ ">")
    (" ".intercalate (o.purpose :: remarks environmentUrl o))

/-- The text for a terminal. -/
def forTerminal (environmentUrl : Option String) : String :=
  "Load phases and live dashboard for the Click-Lite monitoring demo\n\n"
  ++ heading "Usage:" ++ " " ++ bold "monitoring_demo" ++ " [OPTIONS]\n\n"
  ++ heading "Options:" ++ "\n"
  ++ String.join (CliOption.all.map (optionEntry environmentUrl))
  ++ entry ("      " ++ bold "--no-summary")
    "Do not print the summary of operations when the demo ends"
  ++ entry ("  " ++ bold "-h" ++ ", " ++ bold "--help") "Print help"

/-- The text as it is printed. The value of the variable can hold control sequences of its own;
one that is not complete takes some of the text along. -/
def text (environmentUrl : Option String) : String :=
  ControlSequence.dropped (forTerminal environmentUrl)

/-- What is wrong with a command line, in words. -/
def complaint : UsageError → String
  | .unknownArgument => "unexpected argument found"
  | .missingValue => "a value is required for an option but none was supplied"
  | .repeatedOption => "an option cannot be used multiple times"
  | .valueForFlag => "unexpected value for a flag found"
  | .invalidValue => "invalid value for an option"

/-- What the user is told about a command line that cannot be read. -/
def usageText (e : UsageError) : String :=
  "error: " ++ complaint e ++ "\n\nUsage: monitoring_demo [OPTIONS]\n\n"
  ++ "For more information, try '--help'.\n"

end Help
end LoadMonitor

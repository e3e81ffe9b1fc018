/-!
# Diagnostics

Lines for the operator's log. They never reach the screen that the program draws on.
-/

namespace LoadMonitor

/-- How much attention a diagnostic asks for. -/
inductive DiagnosticLevel where
  | error
  | warning
  | info
  | debug
  deriving DecidableEq, Repr

/-- The level as it is written in front of a line. -/
def DiagnosticLevel.label : DiagnosticLevel → String
  | error => "ERROR"
  | warning => "WARN"
  | info => "INFO"
  | debug => "DEBUG"

/-- A line of the log. -/
structure Diagnostic where
  level : DiagnosticLevel
  message : String
  deriving DecidableEq, Repr

namespace Diagnostic

def debug (message : String) : Diagnostic := ⟨.debug, message⟩

def info (message : String) : Diagnostic := ⟨.info, message⟩

def warning (message : String) : Diagnostic := ⟨.warning, message⟩

def text (d : Diagnostic) : String := d.level.label ++ " " ++ d.message

end Diagnostic
end LoadMonitor

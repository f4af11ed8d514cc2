import DevServer.Text.Blank

/-!
# Log levels

A line has a level; a threshold admits the lines of some level and the more severe ones, or none at
all. Thresholds are read leniently: unknown names mean `info`.
-/

namespace DevServer.Log

/-- Severity of a log line, most severe first. -/
inductive Level where
  | error
  | warn
  | info
  | debug
  | trace
  deriving DecidableEq, Repr

namespace Level

def name : Level → String
  | error => "ERROR"
  | warn => "WARN"
  | info => "INFO"
  | debug => "DEBUG"
  | trace => "TRACE"

/-- How many levels are at least as severe. -/
def rank : Level → Nat
  | error => 1
  | warn => 2
  | info => 3
  | debug => 4
  | trace => 5

end Level

/-- Which lines are written: none, or those at least as severe as a level. -/
inductive Threshold where
  | off
  | upTo (level : Level)
  deriving DecidableEq, Repr

namespace Threshold

def rank : Threshold → Nat
  | off => 0
  | upTo level => level.rank

def admits (t : Threshold) (level : Level) : Bool := level.rank ≤ t.rank

def name : Threshold → String
  | off => "OFF"
  | upTo level => level.name

/-- The name with only its first letter large. -/
def title : Threshold → String
  | off => "Off"
  | upTo .error => "Error"
  | upTo .warn => "Warn"
  | upTo .info => "Info"
  | upTo .debug => "Debug"
  | upTo .trace => "Trace"

/-- The threshold of a known name, whatever the case and the blanks around it. -/
def ofName? (s : String) : Option Threshold :=
  match (Text.trimmed s).toLower with
  | "off" => some off
  | "error" => some (upTo .error)
  | "warn" | "warning" => some (upTo .warn)
  | "info" => some (upTo .info)
  | "debug" => some (upTo .debug)
  | "trace" => some (upTo .trace)
  | _ => none

/-- Unknown names mean `info`. -/
def ofNameLenient (s : String) : Threshold := (ofName? s).getD (upTo .info)

@[simp] theorem admits_off (level : Level) : admits off level = false := by
  cases level <;> rfl

theorem admits_upTo_self (level : Level) : admits (upTo level) level = true := by
  cases level <;> rfl

end Threshold

end DevServer.Log

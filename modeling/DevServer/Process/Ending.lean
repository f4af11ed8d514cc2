/-!
# How processes end

A process exits with a code or is ended by a signal.
-/

namespace DevServer.Process

def signalNames : List String := [
  "HUP", "INT", "QUIT", "ILL", "TRAP", "ABRT", "BUS", "FPE", "KILL", "USR1", "SEGV", "USR2", "PIPE",
  "ALRM", "TERM", "STKFLT", "CHLD", "CONT", "STOP", "TSTP", "TTIN", "TTOU", "URG", "XCPU", "XFSZ",
  "VTALRM", "PROF", "WINCH", "IO", "PWR", "SYS"]

def signalName? (signal : Nat) : Option String :=
  if signal = 0 then none else signalNames[signal - 1]?

/-- What is said of processes that a signal has ended, by number from 1. -/
def signalTexts : List String := ["Hangup", "Interrupt", "Quit", "Illegal instruction",
  "Trace/breakpoint trap", "Aborted", "Bus error", "Floating point exception", "Killed",
  "User defined signal 1", "Segmentation fault", "User defined signal 2", "Broken pipe",
  "Alarm clock", "Terminated", "Stack fault", "Child exited", "Continued", "Stopped (signal)",
  "Stopped", "Stopped (tty input)", "Stopped (tty output)", "Urgent I/O condition",
  "CPU time limit exceeded", "File size limit exceeded", "Virtual timer expired",
  "Profiling timer expired", "Window changed", "I/O possible", "Power failure", "Bad system call"]

def signalText (signal : Nat) : String :=
  (if signal = 0 then none else signalTexts[signal - 1]?).getD s!"Real-time signal {signal - 34}"

def kill : Nat := 9

def brokenPipe : Nat := 13

def term : Nat := 15

/-- What a parent gets when a child has ended. -/
def child : Nat := 17

def continue_ : Nat := 18

def stop : Nat := 19

def lastSignal : Nat := 64

/-- Signals that a process takes no notice of unless it asks for them. -/
def isHarmless (signal : Nat) : Bool := [0, 17, 18, 23, 28].contains signal

/-- Signals that stop a process until it is told to go on. -/
def isStopping (signal : Nat) : Bool := [19, 20, 21, 22].contains signal

inductive Ending where
  | exited (code : Nat)
  | signalled (signal : Nat)
  deriving DecidableEq, Repr

namespace Ending

def code? : Ending → Option Int
  | exited code => some code
  | signalled _ => none

def isSuccess (e : Ending) : Bool := e == exited 0

def describe : Ending → String
  | exited code => s!"exit status: {code}"
  | signalled signal =>
    match signalName? signal with
    | some name => s!"signal: {signal} (SIG{name})"
    | none => s!"signal: {signal}"

def status : Ending → Nat
  | exited code => code
  | signalled signal => 128 + signal

end Ending

end DevServer.Process

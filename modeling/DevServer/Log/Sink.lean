import DevServer.Log.Line
import DevServer.Path

/-!
# Log sinks

A sink writes the records that its threshold admits, each with the time, the level and the place
that it comes from. The file watcher reports every raw event at a low level, so the records of the
target `notify` and of the targets inside it have the threshold `warn` instead.
-/

namespace DevServer.Log

/-- What a part of the program reports. -/
structure Record where
  level : Level
  /-- The part of the program; `::` leads to a part inside another. -/
  target : String
  message : String
  file : Option String
  line : Option Nat
  deriving DecidableEq, Repr

/-- Whether `target` is `part` or inside it. -/
def isInside (part target : String) : Bool :=
  target == part || (part ++ "::").toList.isPrefixOf target.toList

structure Sink where
  threshold : Threshold
  /-- The file that lines are written to; without one they go to standard output. -/
  file : Option Path
  colored : Bool
  deriving DecidableEq, Repr

/-- The number of a level's colour on a terminal. -/
def Level.color : Level → Nat
  | .error => 31
  | .warn => 33
  | .info => 32
  | .debug => 34
  | .trace => 35

/-- The name of a level in its colour. -/
def Level.coloredName (l : Level) : String := s!"\x1b[{l.color}m{l.name}\x1b[0m"

/-- The less strict of two thresholds. -/
def Threshold.max (a b : Threshold) : Threshold := if a.rank < b.rank then b else a

namespace Sink

def watcherTarget : String := "notify"

def watcherThreshold : Threshold := .upTo .warn

def thresholdFor (s : Sink) (target : String) : Threshold :=
  if isInside watcherTarget target then watcherThreshold else s.threshold

def admits (s : Sink) (r : Record) : Bool := (s.thresholdFor r.target).admits r.level

/-- Records that this threshold does not admit need not be made at all. -/
def maximum (s : Sink) : Threshold := s.threshold.max watcherThreshold

/-- The text of a record; only standard output has colours. -/
def render (s : Sink) (time : String) (r : Record) : String :=
  let level := if s.colored && s.file.isNone then r.level.coloredName else r.level.name
  let file := r.file.getD "unknown"
  let line := r.line.getD 0
  s!"[{time} - {level}] {r.message} [{file}:{line}]"

/-- What a sink says about itself when it is set up. -/
def greeting (s : Sink) : Line :=
  let place := match s.file with
    | some path => s!"file={path.display}"
    | none => "stdout"
  .info s!"Logger initialized: level={s.threshold.title}, {place}"

/-- What a sink writes for records, one after the other. -/
def write (s : Sink) (time : String) (rs : List Record) : String :=
  String.join ((rs.filter s.admits).map fun r => s.render time r ++ "\n")

theorem maximum_admits {s : Sink} {r : Record} (h : s.admits r = true) :
    s.maximum.admits r.level = true := by
  have h : r.level.rank ≤ (s.thresholdFor r.target).rank := by
    simpa [admits, Threshold.admits] using h
  have : (s.thresholdFor r.target).rank ≤ s.maximum.rank := by
    unfold thresholdFor maximum Threshold.max
    split <;> split <;> omega
  exact decide_eq_true (Nat.le_trans h this)

end Sink

end DevServer.Log

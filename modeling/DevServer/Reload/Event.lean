import DevServer.Json.Parser
import DevServer.Json.Printer

/-!
# Reload events

What browsers are told. On the wire an event is a JSON object with its name under `type`; an array
of the name and the fields is read too.
-/

namespace DevServer.Reload

inductive Event where
  /-- Server-rendered output changed and the new worker is ready. -/
  | serverUpdate
  | clientBuilt (build : Nat)
  deriving DecidableEq, Repr

namespace Event

def name : Event → String
  | serverUpdate => "rsc:update"
  | clientBuilt _ => "client:built"

def toJson : Event → Json
  | serverUpdate => .object [("type", .string "rsc:update")]
  | clientBuilt build =>
    .object [("type", .string "client:built"), ("build_id", .number (.ofNat build))]

def wire (e : Event) : String := e.toJson.render

/-- The event of a name with the values given for its build, each of which must be a 64-bit word. -/
def ofParts? (name : String) (builds : List Json) : Option Event :=
  match name, builds with
  | "client:built", [.number n] => n.word?.map clientBuilt
  | _, _ => none

/-- The name must be given once, and the number of a client build once; other fields do not matter. -/
def ofJson? : Json → Option Event
  | .object fields =>
    match Json.valuesOf "type" fields with
    | [.string "rsc:update"] => some serverUpdate
    | [.string name] => ofParts? name (Json.valuesOf "build_id" fields)
    | _ => none
  | .array [.string "rsc:update"] => some serverUpdate
  | .array (.string name :: rest) => ofParts? name rest
  | _ => none

def parse? (s : String) : Option Event := (Json.parse? s).bind ofJson?

end Event

end DevServer.Reload

import DevServer.Http.Message
import DevServer.Http.Pattern

/-!
# Routes

Two probes have fixed paths; the event stream is served wherever its pattern matches and no probe
is. Every response can be read from any origin.
-/

namespace DevServer.Http

inductive Route where
  | health
  | live
  | stream
  deriving DecidableEq, Repr

def healthPath : String := "/health"

def livePath : String := "/live"

structure Router where
  streamPattern : Pattern
  deriving DecidableEq, Repr

namespace Router

/-- The routes with the event stream at `path`, unless that is no pattern or a probe has it. -/
def new? (path : String) : Option Router :=
  (Pattern.ofText? path).bind fun p =>
    if p = .exact healthPath || p = .exact livePath then none else some ⟨p⟩

def route? (r : Router) (path : String) : Option Route :=
  if path = healthPath then some .health
  else if path = livePath then some .live
  else if r.streamPattern.accepts path then some .stream
  else none

end Router

/-- Headers that let a page of any origin read the response. -/
def anyOrigin : Headers := [
  ("access-control-allow-origin", "*"),
  ("vary", "origin, access-control-request-method, access-control-request-headers")]

/-- Headers that answer what a page of any origin may send. -/
def anyRequest : Headers := [
  ("access-control-allow-headers", "*"),
  ("access-control-allow-methods", "*")]

def allowRead : Headers := [("allow", "GET,HEAD")]

def Route.content (health : Json) : Route → Response
  | .health => .ok "application/json" (.document health)
  | .live => .ok "text/plain; charset=utf-8" (.text "OK")
  | .stream => (Response.ok "text/event-stream" .stream).withHeaders [("cache-control", "no-cache")]

/-- The response of a route, which is only there to be read. -/
def Route.respond (health : Json) (route : Route) : Method → Response
  | .get => route.content health
  | .head => (route.content health).bare
  | .options => ⟨200, anyRequest ++ allowRead, .empty⟩
  | .other _ => ⟨405, allowRead, .empty⟩

def noRoute : Method → Response
  | .options => ⟨200, anyRequest, .empty⟩
  | .get | .head | .other _ => ⟨404, [], .empty⟩

/-- The response to a request; `health` is what `/health` reports. -/
def Router.respond (r : Router) (health : Json) (request : Request) : Response :=
  let response := match r.route? request.path with
    | some route => route.respond health request.method
    | none => noRoute request.method
  response.withHeaders anyOrigin

end DevServer.Http

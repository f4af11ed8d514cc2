import DevServer.Http.Health
import DevServer.Http.Router
import DevServer.Reload.Channel
import DevServer.Shutdown

/-!
# The service

Event streams and health probes over one reload channel, on a clock in milliseconds. A stream gives
one chunk for each event, and a heartbeat when nothing was given for a while; it ends once shutdown
is signalled, which is noticed when the next chunk is asked for.
-/

namespace DevServer.Http

open Reload (Channel Event)

def eventChunk (e : Event) : String := s!"data: {e.wire}\n\n"

/-- A chunk that browsers take no notice of. -/
def heartbeatChunk : String := ": 💓\n\n"

structure Connection where
  /-- The number of its subscription to the channel. -/
  subscription : Nat
  heartbeatAt : Nat
  isOpen : Bool
  deriving DecidableEq, Repr

structure Service where
  router : Router
  heartbeatMs : Nat
  restarts : Restart.Snapshot
  channel : Channel
  shutdown : Shutdown
  connections : List Connection
  now : Nat
  deriving Repr

inductive Reading where
  | chunk (text : String)
  | pending
  | ended
  deriving DecidableEq, Repr

namespace Service

/-- A service with the stream at `path` and room for `capacity` events, if there are such ones. -/
def new? (path : String) (capacity heartbeatMs : Nat) (restarts : Restart.Snapshot) :
    Option Service := do
  let channel ← Channel.new? capacity
  let router ← Router.new? path
  return ⟨router, heartbeatMs, restarts, channel, .new, [], 0⟩

def health (s : Service) : Health := ⟨s.restarts, s.channel.subscribers⟩

/-- The response to a request; `time` is what `/health` shows as the time. -/
def respond (s : Service) (time : String) (request : Request) : Response :=
  s.router.respond (s.health.document time) request

/-- A connection that has just been answered. -/
def connect (s : Service) : Service :=
  { s with
    channel := s.channel.subscribe
    connections := s.connections ++
      [⟨s.channel.subscriptions.length, s.now + s.heartbeatMs, true⟩] }

/-- The service after its response to a request: a stream that is read is subscribed. -/
def take (s : Service) (request : Request) : Service :=
  match s.router.route? request.path, request.method with
  | some .stream, .get => s.connect
  | _, _ => s

def hangUp (s : Service) (id : Nat) : Service :=
  match s.connections[id]? with
  | none => s
  | some c =>
    { s with
      channel := s.channel.unsubscribe c.subscription
      connections := s.connections.set id { c with isOpen := false } }

def wait (s : Service) (ms : Nat) : Service := { s with now := s.now + ms }

def send (s : Service) (e : Event) : Service := { s with channel := s.channel.send e }

def shutDown (s : Service) : Service := { s with shutdown := s.shutdown.raise }

/-- A chunk has been given now, and the next heartbeat is due one period later. -/
def beat (s : Service) (id : Nat) : Service :=
  { s with
    connections := s.connections.modify id ({ · with heartbeatAt := s.now + s.heartbeatMs }) }

/-- What an open connection gives within `ms`: an event goes before a heartbeat. -/
def readOpen (s : Service) (id : Nat) (c : Connection) (ms : Nat) : Reading × Service :=
  match s.channel.recv c.subscription with
  | some (.event e, channel) => (.chunk (eventChunk e), ({ s with channel }).beat id)
  | some (.pending, _) =>
    if c.heartbeatAt ≤ s.now + ms then
      (.chunk heartbeatChunk, ({ s with now := max s.now c.heartbeatAt }).beat id)
    else (.pending, s.wait ms)
  | some (.closed, _) | none => (.ended, s.hangUp id)

/-- What a connection gives within `ms`, and the service after that. -/
def read (s : Service) (id ms : Nat) : Reading × Service :=
  match s.connections[id]? with
  | none => (.ended, s)
  | some c =>
    if !c.isOpen then (.ended, s)
    else if s.shutdown.isOver then (.ended, s.hangUp id)
    else s.readOpen id c ms

end Service

end DevServer.Http

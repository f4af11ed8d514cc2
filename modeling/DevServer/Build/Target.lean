/-!
# Build targets
-/

namespace DevServer.Build

inductive Target where
  | client
  | server
  deriving DecidableEq, Repr

def Target.name : Target → String
  | client => "client"
  | server => "server"

end DevServer.Build

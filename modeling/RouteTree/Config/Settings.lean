/-!
# Settings of a server

Every setting has a default, so that a configuration only states what differs.
-/

namespace RouteTree

/-- Where the server listens. -/
structure Listener where
  bindAddress : String := "0.0.0.0:8080"
  deriving DecidableEq, Repr

/-- How long a request may take, in seconds. -/
structure Timeouts where
  requestSecs : Nat := 30
  deriving DecidableEq, Repr

/-- How many octets of a body are read. -/
structure Limits where
  maxBodyBytes : Nat := 2097152
  deriving DecidableEq, Repr

/-- What is logged and whether metrics are exported. -/
structure Observability where
  logLevel : String := "info"
  metricsEnabled : Bool := false
  metricsAddress : String := "0.0.0.0:9090"
  deriving DecidableEq, Repr

/-- The configuration of a server. -/
structure Config where
  listener : Listener := {}
  timeouts : Timeouts := {}
  limits : Limits := {}
  observability : Observability := {}
  deriving DecidableEq, Repr

/-- The configuration that states nothing. -/
def Config.default : Config := {}

instance : Inhabited Config := ⟨Config.default⟩

end RouteTree

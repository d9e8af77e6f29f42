import RouteTree.Config.Settings
import RouteTree.Config.SocketAddress
import RouteTree.Log.Filter

/-!
# Validation of settings

All settings are checked, and every problem is reported, in a fixed order. A log level
that is an unreadable filter stops the validation altogether.
-/

namespace RouteTree

/-- A setting that cannot be used, and why. -/
structure Problem where
  field : String
  message : String
  deriving DecidableEq, Repr

/-- The wording of a problem. -/
def Problem.describe (p : Problem) : String := p.field ++ ": " ++ p.message

/-- A log level whose text is cut inside a character. -/
inductive Unreadable where
  | logLevel
  deriving DecidableEq, Repr

namespace Config

/-- A problem unless a condition holds. -/
def require (holds : Bool) (field message : String) : List Problem :=
  if holds then [] else [⟨field, message⟩]

/-- Every problem of a configuration whose log level is a filter or not as `levelFine`
says. -/
def problemsWith (c : Config) (levelFine : Bool) : List Problem :=
  require (SocketAddress.isValid c.listener.bindAddress) "listener.bind_address"
      ("invalid socket address `" ++ c.listener.bindAddress ++ "`") ++
    require (c.timeouts.requestSecs != 0) "timeouts.request_secs" "must be greater than zero" ++
    require (c.limits.maxBodyBytes != 0) "limits.max_body_bytes" "must be greater than zero" ++
    require levelFine "observability.log_level"
      ("invalid log level `" ++ c.observability.logLevel ++ "`") ++
    require
      (!c.observability.metricsEnabled || SocketAddress.isValid c.observability.metricsAddress)
      "observability.metrics_address"
      ("invalid socket address `" ++ c.observability.metricsAddress ++ "`")

/-- Every problem of a configuration. -/
def problems (c : Config) : Except Unreadable (List Problem) :=
  match Log.Filter.parse c.observability.logLevel with
  | .ok _ => .ok (c.problemsWith true)
  | .error .cutInsideCharacter => .error .logLevel
  | .error _ => .ok (c.problemsWith false)

/-- A configuration without problems leaves time for a request. -/
theorem requestSecs_ne_zero {c : Config} (h : c.problems = .ok []) :
    c.timeouts.requestSecs ≠ 0 := by
  intro hzero
  have hproblem (levelFine : Bool) : c.problemsWith levelFine ≠ [] := by
    simp [problemsWith, require, hzero]
  unfold problems at h
  split at h
  · exact hproblem true (Except.ok.inj h)
  · cases h
  · exact hproblem false (Except.ok.inj h)

end Config

end RouteTree

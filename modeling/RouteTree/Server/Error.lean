import RouteTree.Compile
import RouteTree.Config.Load

/-!
# Errors that stop a server
-/

namespace RouteTree

/-- Why a server could not start or go on. -/
inductive ServerError where
  | routes (error : ConfigurationError)
  | config (error : ConfigError)
  | system (error : SystemError)

/-- The wording of an error. -/
def ServerError.message : ServerError → String
  | .routes e => "route configuration error: " ++ e.message
  | .config e => "config error: " ++ e.message
  | .system e => "I/O error: " ++ e.message

end RouteTree

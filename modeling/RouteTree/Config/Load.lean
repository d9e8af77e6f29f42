import RouteTree.Config.Validation
import RouteTree.SystemError
import RouteTree.Toml.Reader

/-!
# Loading settings

Settings are written as a TOML document with one table for each section. Unknown keys
are ignored, missing ones have their defaults. A section may also be written as the
array of its settings in their fixed order, of which the last ones may be missing. A
loaded configuration has been validated.
-/

namespace RouteTree

/-- Why a configuration could not be loaded. -/
inductive ConfigError where
  | system (error : SystemError)
  | parse
  | validation (problems : List Problem)
  | unreadable (cause : Unreadable)

/-- The wording of an error, as far as it is fixed. -/
def ConfigError.message : ConfigError → String
  | .system e => "IO error: " ++ e.message
  | .parse => "Parse error: "
  | .validation ps => "Validation failed: " ++ ", ".intercalate (ps.map Problem.describe)
  | .unreadable _ => ""

/-- A problem with all that is known about it. -/
def Problem.inspect (p : Problem) : String :=
  "ValidationError \x7b field: " ++ Text.quote p.field ++ ", message: " ++ Text.quote p.message ++
    " \x7d"

/-- An error with all that is known about it. -/
def ConfigError.inspect : ConfigError → String
  | .system e => "Io(" ++ e.inspect ++ ")"
  | .parse => "Parse"
  | .validation ps => "Validation([" ++ ", ".intercalate (ps.map Problem.inspect) ++ "])"
  | .unreadable _ => ""

namespace Config

/-- The value of a setting in a section: by name in a table, by place in an array. A
moment of time counts as an empty table. -/
inductive Section where
  | named (entries : Toml.Entries)
  | listed (items : List Toml.Value)

/-- A section of a document; a missing one is empty. -/
def section? (root : Toml.Entries) (name : String) : Option Section :=
  match root.get? name with
  | none => some (.named [])
  | some (.table _ entries) => some (.named entries)
  | some (.array items) => some (.listed items)
  | some (.tables items) => some (.listed (items.map fun es => .table .header es))
  | some .moment => some (.named [])
  | some _ => none

/-- The value of the setting with a name and a place. -/
def Section.value? (s : Section) (name : String) (place : Nat) : Option Toml.Value :=
  match s with
  | .named entries => entries.get? name
  | .listed items => items[place]?

/-- A text setting. -/
def Section.text? (s : Section) (name : String) (place : Nat) (default : String) :
    Option String :=
  match s.value? name place with
  | none => some default
  | some (.string v) => some v
  | some _ => none

/-- A setting that is a natural number. -/
def Section.nat? (s : Section) (name : String) (place : Nat) (default : Nat) : Option Nat :=
  match s.value? name place with
  | none => some default
  | some (.integer n) => if 0 ≤ n then some n.toNat else none
  | some _ => none

/-- A setting that is true or false. -/
def Section.bool? (s : Section) (name : String) (place : Nat) (default : Bool) : Option Bool :=
  match s.value? name place with
  | none => some default
  | some (.boolean b) => some b
  | some _ => none

/-- The configuration of a document. -/
def ofToml? (root : Toml.Entries) : Option Config := do
  let base := Config.default
  let listener ← section? root "listener"
  let timeouts ← section? root "timeouts"
  let limits ← section? root "limits"
  let observability ← section? root "observability"
  some {
    listener.bindAddress := ← listener.text? "bind_address" 0 base.listener.bindAddress
    timeouts.requestSecs := ← timeouts.nat? "request_secs" 0 base.timeouts.requestSecs
    limits.maxBodyBytes := ← limits.nat? "max_body_bytes" 0 base.limits.maxBodyBytes
    observability.logLevel := ← observability.text? "log_level" 0 base.observability.logLevel
    observability.metricsEnabled :=
      ← observability.bool? "metrics_enabled" 1 base.observability.metricsEnabled
    observability.metricsAddress :=
      ← observability.text? "metrics_address" 2 base.observability.metricsAddress }

/-- The validated configuration of a text. -/
def parse (text : String) : Except ConfigError Config :=
  match (Toml.parse? text).bind ofToml? with
  | none => .error .parse
  | some c =>
    match c.problems with
    | .error cause => .error (.unreadable cause)
    | .ok [] => .ok c
    | .ok ps => .error (.validation ps)

/-- The configuration of a file's content; `none` is a file that does not exist. -/
def load (content : Option Bytes) : Except ConfigError Config :=
  match content with
  | none => .error (.system .noSuchFile)
  | some bytes =>
    match Utf8.toString? bytes with
    | none => .error (.system .notText)
    | some text => parse text

end Config

end RouteTree

import RouteTree.CommandLine
import RouteTree.Config.Load
import RouteTree.Demo.Service
import RouteTree.Log.Record
import RouteTree.Server.Running

/-!
# The program

The program serves the users service. It reads its arguments, loads its configuration,
chooses a log filter and starts the server; what fails on the way ends it with an exit
code and a complaint. Once the server is running, the program waits for a signal, stops
the server and ends.

What it writes is decided here, and so is what it asks of its surroundings: files, the
text of a log filter and addresses.
-/

namespace RouteTree.Program

/-- What the program finds around it. -/
structure Surroundings where
  file? : String → Option Bytes
  filterText : Option String
  isTaken : SocketAddress → Bool

/-- How far starting has led: to an exit code, or to a server with the filter of its
log. -/
inductive Outcome where
  | ended (code : Nat)
  | serving (started : Started Demo.Users) (filter : Log.Filter)

/-- What starting gives: the lines written, the complaints, and how far it has led. -/
structure Launch where
  lines : List String
  complaints : List String
  outcome : Outcome

/-- The target of the program itself. -/
def target : String := "rutt"

/-- The program's name and version. -/
def title : String := "rutt v0.1.0"

/-- The lines of the records that a filter lets through. -/
def linesOf (filter : Log.Filter) (records : List Log.Record) : List String :=
  (records.filter fun r => r.passes filter).map Log.Record.line

/-- The configuration that the arguments ask for. An address among them is taken as it
is. -/
def configure (s : Surroundings) (arguments : CommandLine.Arguments) :
    Except ConfigError Config := do
  let config ← match arguments.config with
    | some path => Config.load (s.file? path)
    | none => .ok Config.default
  match arguments.bind with
  | some address => .ok { config with listener.bindAddress := address }
  | none => .ok config

/-- The text of the filter for a configured level. -/
def levelText (level : String) : String := "rutt=" ++ level ++ ",tower_http=" ++ level

/-- The log filter: the one that the surroundings give if it is valid, and otherwise
what can be read of the one for the configured level. -/
def chooseFilter (s : Surroundings) (level : String) : Except Log.DirectiveError Log.Filter :=
  let fallback := Log.Filter.parseLossy (levelText level)
  match s.filterText with
  | none => fallback
  | some text =>
    match Log.Filter.parse text with
    | .ok filter => .ok filter
    | .error .cutInsideCharacter => .error .cutInsideCharacter
    | .error _ => fallback

/-- The records of a configured program before it starts its server. -/
def openingRecords (config : Config) : List Log.Record :=
  [⟨.info, target, title ++ " starting", []⟩,
    ⟨.info, target, "Configuration loaded",
      [("bind_address", config.listener.bindAddress),
        ("request_timeout_secs", toString config.timeouts.requestSecs)]⟩]

/-- The record of a metrics exporter. -/
def exporterRecord (address : SocketAddress) : Log.Record :=
  ⟨.info, "rutt::observability::metrics", "Metrics exporter listening", [("address", address.text)]⟩

/-- The records of a program whose metrics are exported if that is configured; `none` if
they cannot be. -/
def exporterRecords? (config : Config) : Option (List Log.Record) :=
  if config.observability.metricsEnabled then
    (SocketAddress.parse? config.observability.metricsAddress).map fun a => [exporterRecord a]
  else some []

/-- Start the server of a configured program. -/
def startServer (s : Surroundings) (config : Config) (filter : Log.Filter)
    (opening : List Log.Record) : Launch :=
  let (result, events) := ((Demo.server config).register [Demo.health]).start s.isTaken
  let lines := linesOf filter (opening ++ events.filterMap Log.Record.ofEvent?)
  match result with
  | .ok started => ⟨lines, [], .serving started filter⟩
  | .error (.bind e) => ⟨lines, ["Error: Io(" ++ e.inspect ++ ")"], .ended 1⟩
  | .error (.assembly _) => ⟨lines, [], .ended 101⟩

/-- Start a configured program. -/
def startConfigured (s : Surroundings) (config : Config) : Launch :=
  match chooseFilter s config.observability.logLevel with
  | .error _ => ⟨[], [], .ended 101⟩
  | .ok filter =>
    match exporterRecords? config with
    | none =>
      ⟨linesOf filter (openingRecords config), ["Error: AddrParseError(Socket)"], .ended 1⟩
    | some exporter => startServer s config filter (openingRecords config ++ exporter)

/-- Start the program with arguments. -/
def launch (s : Surroundings) (arguments : List String) : Launch :=
  match CommandLine.read arguments with
  | .error .helpRequested => ⟨CommandLine.help, [], .ended 0⟩
  | .error _ => ⟨[], [], .ended 2⟩
  | .ok arguments =>
    match configure s arguments with
    | .error (.unreadable _) => ⟨[], [], .ended 101⟩
    | .error e => ⟨[], ["Error: " ++ e.inspect], .ended 1⟩
    | .ok config => startConfigured s config

/-- The lines of a program that is told to stop. -/
def stopLines (filter : Log.Filter) : List String :=
  linesOf filter
    (⟨.info, "rutt::lifecycle::signals", "Shutdown signal received", []⟩ ::
      ([Event.stopped].filterMap Log.Record.ofEvent? ++
        [⟨.info, target, "Shutdown complete", []⟩]))

end RouteTree.Program

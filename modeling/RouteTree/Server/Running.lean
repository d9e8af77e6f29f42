import RouteTree.Config.SocketAddress
import RouteTree.Decimal.Numeral
import RouteTree.Server.Application
import RouteTree.Shutdown
import RouteTree.SystemError

/-!
# Running servers

Starting a server assembles it and then takes the address of its configuration, which is
a socket address or a host and a port. A running server stops once its signal is
triggered, and whoever waits for that gives up the server.
-/

namespace RouteTree

namespace SocketAddress

/-- What stands before and behind the last colon. -/
def splitAtLastColon? (text : String) : Option (List Char × String) :=
  let behind := text.toList.reverse.takeWhile (· ≠ ':')
  match text.toList.reverse.drop behind.length with
  | _ :: before => some (before.reverse, String.ofList behind.reverse)
  | [] => none

/-- The address of a host that is written as an address, or is the machine itself. -/
def host? (text : List Char) : Option Host :=
  if text = "localhost".toList then some (.v4 [127, 0, 0, 1])
  else
    match ipv4 text, ipv6 text with
    | some (octets, []), _ => some (.v4 octets)
    | _, some (groups, []) => some (.v6 groups 0)
    | _, _ => none

/-- The address that a text asks to listen at. -/
def resolve (text : String) : Except SystemError SocketAddress :=
  match parse? text with
  | some address => .ok address
  | none =>
    match splitAtLastColon? text with
    | none => .error .invalidAddress
    | some (host, port) =>
      match naturalUpTo? 65535 port with
      | none => .error .invalidPort
      | some port =>
        match host? host with
        | none => .error .unknownHost
        | some host => .ok ⟨host, port⟩

/-- Take the address that a text asks for, unless it is in use. -/
def bind (isTaken : SocketAddress → Bool) (text : String) : Except SystemError SocketAddress :=
  match resolve text with
  | .error e => .error e
  | .ok address => if isTaken address then .error .addressInUse else .ok address

end SocketAddress

/-- Why a server did not start. -/
inductive StartError where
  | assembly (error : AssemblyError)
  | bind (error : SystemError)

/-- A server that was started, and where it listens. -/
structure Started (σ : Type) where
  application : Application σ
  address : SocketAddress
  routes : Nat

/-- Start a server in place of the one that was assembled, and tell what was
announced. -/
def Server.start {σ : Type} (s : Server σ) (isTaken : SocketAddress → Bool) :
    Except StartError (Started σ) × List Event :=
  match s.assemble with
  | (.error e, events) => (.error (.assembly e), events)
  | (.ok application, events) =>
    match SocketAddress.bind isTaken s.config.listener.bindAddress with
    | .error e => (.error (.bind e), events)
    | .ok address =>
      (.ok ⟨application, address, s.entries.length⟩,
        events ++ [.listening address.text s.entries.length])

/-- The end of a running server: the signal that stops it, and whether someone has
waited for that. -/
structure Running where
  signal : Signal
  finished : Bool
  deriving DecidableEq, Repr

namespace Running

/-- A server that has just been started. -/
def start : Running := ⟨Signal.new, false⟩

/-- Trigger the signal. -/
def trigger (r : Running) : Running := { r with signal := r.signal.trigger }

/-- Ask a server to stop that no one has waited for. -/
def shutdown (r : Running) : Running := if r.finished then r else r.trigger

/-- Wait for a server to stop; tells whether it has stopped now. -/
def wait (r : Running) : Bool × Running :=
  if !r.finished && r.signal.triggered then (true, { r with finished := true }) else (false, r)

/-- Stop a server. -/
def stop (r : Running) : Bool × Running := r.shutdown.wait

end Running

end RouteTree

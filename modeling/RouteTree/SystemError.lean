import RouteTree.Text.Quoted

/-!
# Errors of the system

Files and sockets fail with errors that the operating system reports under a number, or
that are found before it is asked.
-/

namespace RouteTree

/-- An error of a file or a socket: reported under a number and a kind, found under a
kind alone, or of no kind. -/
inductive SystemError where
  | reported (number : Nat) (kind message : String)
  | found (kind message : String)
  | other (kind message : String)
  deriving DecidableEq, Repr

namespace SystemError

/-- A file does not exist. -/
def noSuchFile : SystemError := .reported 2 "NotFound" "No such file or directory"

/-- An address is in use. -/
def addressInUse : SystemError := .reported 98 "AddrInUse" "Address already in use"

/-- A file does not hold text. -/
def notText : SystemError := .found "InvalidData" "stream did not contain valid UTF-8"

/-- An address has no port. -/
def invalidAddress : SystemError := .found "InvalidInput" "invalid socket address"

/-- A port is no number of 16 bits. -/
def invalidPort : SystemError := .found "InvalidInput" "invalid port value"

/-- A host has no address. -/
def unknownHost : SystemError :=
  .other "Uncategorized"
    "failed to lookup address information: Name or service not known"

/-- An error that only has a message. -/
def ofText (message : String) : SystemError := .other "Other" message

/-- The wording of an error. -/
def message : SystemError → String
  | .reported number _ message => message ++ " (os error " ++ toString number ++ ")"
  | .found _ message => message
  | .other _ message => message

/-- An error with all that is known about it. -/
def inspect : SystemError → String
  | .reported number kind message =>
    "Os \x7b code: " ++ toString number ++ ", kind: " ++ kind ++ ", message: " ++
      Text.quote message ++ " \x7d"
  | .found kind message =>
    "Error \x7b kind: " ++ kind ++ ", message: " ++ Text.quote message ++ " \x7d"
  | .other kind message =>
    "Custom \x7b kind: " ++ kind ++ ", error: " ++ Text.quote message ++ " \x7d"

end SystemError

end RouteTree

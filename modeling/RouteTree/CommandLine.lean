/-!
# Command lines

A command line may name a configuration file and an address, each once, as an option
with a value behind it or attached to it, or ask for help. The arguments are read in
order, and the value of an option is settled when the next option is read, or at the
end.
-/

namespace RouteTree.CommandLine

/-- What a command line says. -/
structure Arguments where
  config : Option String
  bind : Option String
  deriving DecidableEq, Repr

/-- Why a command line is not carried out. -/
inductive ArgumentError where
  | unknownArgument
  | invalidValue
  | argumentConflict
  | tooManyValues
  | helpRequested
  deriving DecidableEq, Repr

/-- The name of an error. -/
def ArgumentError.name : ArgumentError → String
  | .unknownArgument => "UnknownArgument"
  | .invalidValue => "InvalidValue"
  | .argumentConflict => "ArgumentConflict"
  | .tooManyValues => "TooManyValues"
  | .helpRequested => "DisplayHelp"

/-- Options with a value. -/
inductive Key where
  | config
  | bind
  deriving DecidableEq, Repr

/-- One argument as it is written: the separator, an option with the value attached to
it, a request for help, a word, or an option that there is none of. -/
inductive Argument where
  | separator
  | option (key : Key) (attached : Option String)
  | help
  | helpWithValue
  | word (text : String)
  | unknown
  deriving DecidableEq, Repr

/-- What is attached to a letter: everything behind it, without an equals sign in
front. -/
def attachedTo : List Char → Option String
  | [] => none
  | '=' :: value => some (String.ofList value)
  | value => some (String.ofList value)

/-- The argument of a long name and what is attached to it. -/
def longArgument (name : List Char) (attached : Option String) : Argument :=
  if name = "config".toList then .option .config attached
  else if name = "bind".toList then .option .bind attached
  else if name = "help".toList then
    match attached with
    | none => .help
    | some _ => .helpWithValue
  else .unknown

/-- How an argument is written. -/
def classify (text : String) : Argument :=
  match text.toList with
  | ['-', '-'] => .separator
  | '-' :: '-' :: rest =>
    longArgument (rest.takeWhile (· ≠ '='))
      (match rest.dropWhile (· ≠ '=') with
        | _ :: value => some (String.ofList value)
        | [] => none)
  | '-' :: 'c' :: rest => .option .config (attachedTo rest)
  | '-' :: 'b' :: rest => .option .bind (attachedTo rest)
  | '-' :: 'h' :: _ => .help
  | '-' :: _ :: _ => .unknown
  | _ => .word text

/-- The value given for an option. -/
def Arguments.get? (a : Arguments) : Key → Option String
  | .config => a.config
  | .bind => a.bind

/-- Give an option a value. A file needs a name. -/
def Arguments.set (a : Arguments) (key : Key) (value : String) : Except ArgumentError Arguments :=
  if (a.get? key).isSome then .error .argumentConflict
  else
    match key with
    | .config => if value.isEmpty then .error .invalidValue else .ok { a with config := some value }
    | .bind => .ok { a with bind := some value }

/-- An option that has not been settled, with its value if that has been read. -/
structure Pending where
  key : Key
  value : Option String
  deriving DecidableEq, Repr

/-- Settle an option. -/
def settle (a : Arguments) : Option Pending → Except ArgumentError Arguments
  | none => .ok a
  | some ⟨_, none⟩ => .error .invalidValue
  | some ⟨key, some value⟩ => a.set key value

/-- Read arguments behind an option that may still have to be settled. -/
def readFrom (a : Arguments) (pending : Option Pending) :
    List String → Except ArgumentError Arguments
  | [] => settle a pending
  | text :: rest =>
    match classify text with
    | .separator => if rest.isEmpty then settle a pending else .error .unknownArgument
    | .option key none => do readFrom (← settle a pending) (some ⟨key, none⟩) rest
    | .option key (some value) => do
      readFrom (← (← settle a pending).set key value) none rest
    | .help => do
      let _ ← settle a pending
      .error .helpRequested
    | .helpWithValue => .error .tooManyValues
    | .unknown => .error .unknownArgument
    | .word value =>
      match pending with
      | some ⟨key, none⟩ => readFrom a (some ⟨key, some value⟩) rest
      | _ => .error .unknownArgument

/-- The meaning of a command line. -/
def read (arguments : List String) : Except ArgumentError Arguments :=
  readFrom ⟨none, none⟩ none arguments

/-- The lines of help. -/
def help : List String :=
  ["Demo server for tree-declared routes",
    "",
    "Usage: rutt [OPTIONS]",
    "",
    "Options:",
    "  -c, --config <CONFIG>  Path to a TOML configuration file",
    "  -b, --bind <BIND>      Override the listener bind address",
    "  -h, --help             Print help"]

end RouteTree.CommandLine

/-!
# TOML documents

A document is a table of values, tables and arrays of tables. Each table remembers how
it came about, for that decides what may still be added to it: a header may only name a
new table or one that was implied by a header below it, a dotted key may only extend
tables that dotted keys have made, and a table in braces is closed.
-/

namespace RouteTree.Toml

/-- How a table came about. -/
inductive Origin where
  | header
  | implied
  | dotted
  | braces
  deriving DecidableEq, Repr

/-- A value of a document. Where only its kind matters, the value itself is left out. -/
inductive Value where
  | string (value : String)
  | integer (value : Int)
  | float
  | boolean (value : Bool)
  | moment
  | array (items : List Value)
  | table (origin : Origin) (entries : List (String × Value))
  | tables (items : List (List (String × Value)))

/-- The entries of a table. -/
abbrev Entries := List (String × Value)

namespace Entries

/-- The value of a key. -/
def get? (entries : Entries) (key : String) : Option Value := entries.lookup key

/-- Set the value of a key. -/
def put (key : String) (value : Value) : Entries → Entries
  | [] => [(key, value)]
  | (k, v) :: rest => if k = key then (key, value) :: rest else (k, v) :: put key value rest

end Entries

/-- Apply a change to the last element. -/
def changeLast {α : Type} (change : α → Option α) : List α → Option (List α)
  | [] => none
  | [a] => (change a).map fun b => [b]
  | a :: rest => (changeLast change rest).map fun bs => a :: bs

/-- Change the table at the end of a path; missing tables on the way come about by
`made`. Of an array of tables the path goes through the last one. Dotted paths do not
enter tables with headers. -/
def descend (made : Origin) (change : Origin → Entries → Option Entries) :
    List String → Origin → Entries → Option Entries
  | [], origin, entries => change origin entries
  | key :: path, _, entries =>
    match entries.get? key with
    | none =>
      (descend made change path made []).map fun below =>
        entries.put key (.table made below)
    | some (.table origin below) =>
      if origin = .braces ∨ (made = .dotted ∧ origin = .header) then none
      else
        (descend made change path origin below).map fun below =>
          entries.put key (.table origin below)
    | some (.tables items) =>
      (changeLast (descend made change path .header) items).map fun items =>
        entries.put key (.tables items)
    | some _ => none

/-- Set a new key in the table that a dotted path leads to. A path with dots must end in
a table that dotted keys have made. -/
def assign (path : List String) (key : String) (value : Value) (origin : Origin)
    (entries : Entries) : Option Entries :=
  descend .dotted (fun reached below =>
    if (decide (reached = .dotted)) == path.isEmpty then none
    else if (below.get? key).isSome then none
    else some (below.put key value)) path origin entries

/-- Open the table of a header. -/
def openTable (parents : List String) (key : String) (root : Entries) : Option Entries :=
  descend .implied (fun _ entries =>
    match entries.get? key with
    | none => some (entries.put key (.table .header []))
    | some (.table .implied below) => some (entries.put key (.table .header below))
    | some _ => none) parents .header root

/-- Open the next table of an array of tables. -/
def openElement (parents : List String) (key : String) (root : Entries) : Option Entries :=
  descend .implied (fun _ entries =>
    match entries.get? key with
    | none => some (entries.put key (.tables [[]]))
    | some (.tables items) => some (entries.put key (.tables (items ++ [[]])))
    | some _ => none) parents .header root

/-- Set a key below the table of the last header. -/
def assignUnder (header path : List String) (key : String) (value : Value) (root : Entries) :
    Option Entries :=
  descend .implied (fun _ entries => assign path key value .header entries) header .header root

end RouteTree.Toml

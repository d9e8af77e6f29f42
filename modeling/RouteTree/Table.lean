import RouteTree.Compile

/-!
# Tables that can be served

A table lists where its entries are reached. It can be served if every method is
routable, no method and path occur twice, no parameter is without a name, and parameters
behind the same segments have the same name, where names do not count in what stands
before. `check` walks the places in order and each path from left to right, and ends at
the first thing that breaks one of these rules.
-/

namespace RouteTree

/-- A method and a path. -/
structure Place where
  method : Method
  path : String
  deriving DecidableEq, Repr

/-- The name of a segment that stands in braces. -/
def parameterName? (segment : String) : Option String :=
  match segment.toList with
  | '\x7b' :: rest =>
    if rest.getLast? = some '\x7d' then some (String.ofList rest.dropLast) else none
  | _ => none

/-- A pair of braces: any parameter without its name. -/
def anyParameter : String := "\x7b\x7d"

namespace Table

/-- The names of parameters, each with the path that declared it first, by the shape of
a path up to and with the parameter. In a shape parameters stand without their names. -/
abbrev Named := SortedMap String (String × String)

/-- Check the segments of a path behind those that have the given shape. The parameters
among them must have the names that are known for their shapes; a name that is not known
yet becomes known. -/
def checkSegments (path shape : String) (named : Named) :
    List String → Except ConfigurationError Named
  | [] => .ok named
  | s :: rest =>
    match parameterName? s with
    | none => checkSegments path (shape ++ "/" ++ s) named rest
    | some name =>
      let shape := shape ++ "/" ++ anyParameter
      if name.isEmpty then .error (.emptyParamName path)
      else
        match named.get? shape with
        | none => checkSegments path shape (named.insert shape (name, path)) rest
        | some (existing, existingPath) =>
          if existing = name then checkSegments path shape named rest
          else .error (.conflictingParamName path name existingPath existing)

/-- Check places against those that came before them. -/
def checkFrom (seen : List Place) (named : Named) :
    List Place → Except ConfigurationError Unit
  | [] => .ok ()
  | p :: rest =>
    if !p.method.isRoutable then .error (.unsupportedMethod p.method p.path)
    else if seen.contains p then .error (.duplicateRoute p.method p.path)
    else
      match checkSegments p.path "" named (segments p.path) with
      | .error e => .error e
      | .ok named => checkFrom (seen ++ [p]) named rest

/-- Whether a table can be served, or the first thing that is wrong with it. -/
def check (places : List Place) : Except ConfigurationError Unit :=
  checkFrom [] SortedMap.empty places

end Table

/-- Where an entry is reached. -/
def Entry.place {σ : Type} (e : Entry σ) : Place := ⟨e.method, e.path⟩

end RouteTree

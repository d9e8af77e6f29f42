import RouteTree.Http.Method
import RouteTree.Http.Percent
import RouteTree.Router.Pattern
import RouteTree.SortedMap

/-!
# Routers

A router has sites: a written path, its pattern, and the targets of its methods. No two
patterns collide, so of the sites that take a request path one goes before all others,
whatever order they were added in. It answers for its methods, and for HEAD with the
target of GET unless HEAD has one of its own.
-/

namespace RouteTree

/-- A path and the targets of its methods in the order in which they were added. -/
structure Site (α : Type) where
  path : String
  pattern : Pattern
  targets : List (Method × α)

/-- Sites without collisions. -/
structure Router (α : Type) where
  sites : List (Site α)

/-- Where a request goes: to a target with what its path has for the parameters, to a
site that does not serve its method, or nowhere. -/
inductive Destination (α : Type) where
  | target (target : α) (captured : List (String × String))
  | wrongMethod (served : String)
  | nowhere

/-- Why a router does not take a path. -/
inductive Refusal where
  | malformed (path : String)
  | colliding (path : String)
  | taken (method : Method) (path : String)
  deriving DecidableEq, Repr

namespace Site

variable {α : Type}

/-- The target of a method. -/
def own? (s : Site α) (method : Method) : Option α :=
  (s.targets.find? fun t => t.1 == method).map Prod.snd

/-- The target that serves a method: HEAD is served by GET if it has no target of its
own. -/
def target? (s : Site α) (method : Method) : Option α :=
  match s.own? method with
  | some target => some target
  | none => if method = .head then s.own? .get else none

/-- The methods that a target adds to those that are served. -/
def servedBy (method : Method) : List String :=
  if method = .get then ["GET", "HEAD"] else [method.token]

/-- The served methods, separated by commas. -/
def served (s : Site α) : String :=
  ",".intercalate (s.targets.flatMap fun t => servedBy t.1)

/-- Add a target, unless the method has one. -/
def add (s : Site α) (method : Method) (target : α) : Except Refusal (Site α) :=
  match s.own? method with
  | some _ => .error (.taken method s.path)
  | none => .ok { s with targets := s.targets ++ [(method, target)] }

end Site

namespace Router

variable {α : Type}

/-- No site. -/
def empty : Router α := ⟨[]⟩

/-- Add a target to the site of a path among several, if the path is there. -/
def addAt (path : String) (method : Method) (target : α) :
    List (Site α) → Option (Except Refusal (List (Site α)))
  | [] => none
  | s :: rest =>
    if s.path = path then some ((s.add method target).map (· :: rest))
    else (addAt path method target rest).map fun r => r.map (s :: ·)

/-- Add a target for a method of a path. The path is refused if it writes no pattern, or
one that collides with the pattern of another path. -/
def add (r : Router α) (path : String) (method : Method) (target : α) :
    Except Refusal (Router α) :=
  match addAt path method target r.sites with
  | some result => result.map Router.mk
  | none =>
    match Pattern.parse? path with
    | none => .error (.malformed path)
    | some pattern =>
      if r.sites.any fun s => s.pattern.collides pattern then .error (.colliding path)
      else .ok ⟨r.sites ++ [⟨path, pattern, [(method, target)]⟩]⟩

/-- A site that takes a path, with what the path has for its parameters, unless a better
one is known. -/
def prefer (path : List Char) (best : Option (Site α × List (String × String))) (s : Site α) :
    Option (Site α × List (String × String)) :=
  match s.pattern.captures? path with
  | none => best
  | some captured =>
    match best with
    | none => some (s, captured)
    | some (other, _) =>
      if s.pattern.goesBefore other.pattern then some (s, captured) else best

/-- The site that takes a path and goes before all others that take it. -/
def site? (r : Router α) (path : String) : Option (Site α × List (String × String)) :=
  r.sites.foldl (prefer path.toList) none

/-- Where a request of a method and a path goes. -/
def route (r : Router α) (method : Method) (path : String) : Destination α :=
  match r.site? path with
  | none => .nowhere
  | some (s, captured) =>
    match s.target? method with
    | some target => .target target captured
    | none => .wrongMethod s.served

/-- The values of captured parameters without percent signs, or the first parameter
whose value is not UTF-8. Of values with one name the last counts. -/
def decodeCaptured : List (String × String) → Except String (SortedMap String String)
  | captured => go SortedMap.empty captured
where
  /-- Decode the values behind those that are done. -/
  go (done : SortedMap String String) :
      List (String × String) → Except String (SortedMap String String)
    | [] => .ok done
    | (name, value) :: rest =>
      match Percent.decodeText? value with
      | none => .error name
      | some text => go (done.insert name text) rest

end Router

end RouteTree

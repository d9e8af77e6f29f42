import RouteTree.Config.Settings
import RouteTree.Http.Response
import RouteTree.Router.Basic
import RouteTree.Table

/-!
# Servers before they serve

A server collects the entries of one route tree and any number of plugins. Declaring
routes replaces the entries if the tree compiles and its table can be served, and
changes nothing but the numbers of later constructions if not. Assembling puts the
entries and then the plugins into a router.
-/

namespace RouteTree

/-- An extension with fixed answers to GET requests. Extensions that change a router in
any other way, by routes of other methods, by routers nested in it or by what they put
around it, are left out. -/
structure Plugin where
  name : String
  pages : List (String × Response)

/-- What serves the requests of a method and path. -/
inductive Target (σ : Type) where
  | entry (entry : Entry σ)
  | page (response : Response)

/-- Why a server cannot be assembled. -/
inductive AssemblyError where
  | table (error : ConfigurationError)
  | refused (refusal : Refusal)

namespace Router

variable {σ : Type}

/-- Add the pages of a plugin. -/
def addPages (r : Router (Target σ)) : List (String × Response) → Except Refusal (Router (Target σ))
  | [] => .ok r
  | (path, response) :: rest =>
    match r.add path .get (.page response) with
    | .error refusal => .error refusal
    | .ok r => addPages r rest

/-- Add plugins; each is announced before its pages are added. -/
def addPlugins (r : Router (Target σ)) :
    List Plugin → Except AssemblyError (Router (Target σ)) × List Event
  | [] => (.ok r, [])
  | p :: rest =>
    match r.addPages p.pages with
    | .error refusal => (.error (.refused refusal), [.pluginRegistered p.name])
    | .ok r =>
      let (result, events) := addPlugins r rest
      (result, .pluginRegistered p.name :: events)

/-- Add entries; each is announced before it is added. -/
def addEntries (r : Router (Target σ)) :
    List (Entry σ) → Except AssemblyError (Router (Target σ)) × List Event
  | [] => (.ok r, [])
  | e :: rest =>
    if !e.method.isRoutable then (.error (.table (.unsupportedMethod e.method e.path)), [])
    else
      match r.add e.path e.method (.entry e) with
      | .error refusal => (.error (.refused refusal), [.registered e.method e.path])
      | .ok r =>
        let (result, events) := addEntries r rest
        (result, .registered e.method e.path :: events)

end Router

namespace Plugin

/-- A plugin that is a router of its own, whose paths are checked at once. -/
def merged (pages : List (String × Response)) : Except Refusal Plugin :=
  ((Router.empty : Router (Target Unit)).addPages pages).map fun _ => ⟨"router", pages⟩

end Plugin

/-- A server that does not serve yet; `next` is the number of the next construction of a
controller. -/
structure Server (σ : Type) where
  config : Config
  entries : List (Entry σ)
  plugins : List Plugin
  next : Nat

/-- What declaring routes gives: the error if they are not taken, the server, and what
was constructed. -/
structure Declaration (σ : Type) where
  error : Option ConfigurationError
  server : Server σ
  constructed : List (Instance σ)

namespace Server

variable {σ : Type}

/-- A server without entries. -/
def new (config : Config) : Server σ := ⟨config, [], [], 1⟩

/-- Declare the routes to serve in place of those declared before. -/
def declare (s : Server σ) (forest : List (Route σ)) : Declaration σ :=
  let compilation := Route.compileForest Context.root s.next forest
  let counted := { s with next := s.next + compilation.constructed.length }
  match compilation.result with
  | .error e => ⟨some e, counted, compilation.constructed⟩
  | .ok entries =>
    match Table.check (entries.map Entry.place) with
    | .error e => ⟨some e, counted, compilation.constructed⟩
    | .ok () => ⟨none, { counted with entries }, compilation.constructed⟩

/-- Register plugins behind those that are there. -/
def register (s : Server σ) (plugins : List Plugin) : Server σ :=
  { s with plugins := s.plugins ++ plugins }

/-- The router of entries and plugins, and what was announced while it was assembled. -/
def router (s : Server σ) : Except AssemblyError (Router (Target σ)) × List Event :=
  match Router.empty.addEntries s.entries with
  | (.error e, events) => (.error e, events)
  | (.ok r, events) =>
    let (result, more) := r.addPlugins s.plugins
    (result, events ++ more)

end Server

end RouteTree

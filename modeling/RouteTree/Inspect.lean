import RouteTree.Compile
import RouteTree.Json.Printer
import RouteTree.Text.Quoted

/-!
# Descriptions of trees and tables

Nodes, entries, controllers and the values in them are described in one line: the name
of the type, then its parts by name, with texts quoted.
-/

namespace RouteTree.Inspect

/-- Descriptions between two brackets, separated by commas. -/
def enclosed (opening closing : String) (parts : List String) : String :=
  opening ++ ", ".intercalate parts ++ closing

/-- A list. -/
def list (parts : List String) : String := enclosed "[" "]" parts

/-- A map from names. -/
def map (entries : List (String × String)) : String :=
  enclosed "\x7b" "\x7d" (entries.map fun e => Text.quote e.1 ++ ": " ++ e.2)

/-- A record with named parts. -/
def record (name : String) (fields : List (String × String)) : String :=
  name ++ enclosed " \x7b " " \x7d" (fields.map fun f => f.1 ++ ": " ++ f.2)

/-- A part that may be missing. -/
def option : Option String → String
  | none => "None"
  | some part => "Some(" ++ part ++ ")"

mutual

/-- A JSON value by its kind. -/
def json : Json → String
  | .null => "Null"
  | .bool true => "Bool(true)"
  | .bool false => "Bool(false)"
  | .number n => "Number(" ++ String.ofList (Json.numberText n) ++ ")"
  | .string s => "String(" ++ Text.quote s ++ ")"
  | .array items => "Array " ++ list (jsonItems items)
  | .object members => "Object " ++ map (jsonMembers members)

/-- JSON values one by one. -/
def jsonItems : List Json → List String
  | [] => []
  | v :: vs => json v :: jsonItems vs

/-- JSON members one by one. -/
def jsonMembers : List (String × Json) → List (String × String)
  | [] => []
  | (name, v) :: ms => (name, json v) :: jsonMembers ms

end

/-- Passed-through settings. -/
def settings (m : SortedMap String Json) : String := map (jsonMembers m.entries)

/-- A parameter rule. -/
def rule : Rule → String
  | .any => "Any"
  | .integer => "Integer"
  | .uuid => "Uuid"
  | .alphanumeric => "Alphanumeric"
  | .length least greatest =>
    record "Length" [("min", toString least), ("max", toString greatest)]
  | .oneOf allowed => "OneOf(" ++ list (allowed.map Text.quote) ++ ")"

/-- Parameter rules by name. -/
def schema (s : Schema) : String := map (s.entries.map fun e => (e.1, rule e.2))

variable {σ : Type}

/-- A controller type. -/
def controller (c : Controller σ) : String :=
  "ControllerFactory(" ++ Text.quote c.shortName ++ ")"

/-- A controller instance and its handlers. -/
def instanceOf (i : Instance σ) : String :=
  record "ControllerHandle"
    [("name", Text.quote i.kind.shortName), ("methods", list (i.kind.sortedNames.map Text.quote))]

/-- The parts of a node before its children. -/
def nodeFields (n : Node σ) : List (String × String) :=
  [("path", option (n.path.map Text.quote)),
    ("method", n.method.token),
    ("controller", option (n.controller.map controller)),
    ("handler", option (n.handler.map Text.quote)),
    ("config", settings n.options),
    ("validate", record "Validate"
      [("params", option (n.rules.map schema)), ("other", settings n.checks)]),
    ("guards", toString n.guards.length)]

mutual

/-- A tree. -/
def route : Route σ → String
  | .node own children =>
    record "Route" (nodeFields own ++ [("children", list (routes children))])

/-- Trees one by one. -/
def routes : List (Route σ) → List String
  | [] => []
  | r :: rs => route r :: routes rs

end

/-- A compiled entry. -/
def entry (e : Entry σ) : String :=
  record "DispatchEntry"
    [("method", e.method.token),
      ("path", Text.quote e.path),
      ("config", record "RouteConfig"
        [("validate", record "ValidateConfig"
          [("params", schema e.schema), ("other", settings e.checks)]),
          ("options", settings e.options)]),
      ("controller", Text.quote e.controller.kind.shortName),
      ("handler_name", Text.quote e.handlerName),
      ("guard_count", toString e.guardCount)]

end RouteTree.Inspect

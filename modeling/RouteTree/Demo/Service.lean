import RouteTree.Body
import RouteTree.Decimal.Numeral
import RouteTree.Demo.Users
import RouteTree.Server.Application

/-!
# The users service

A service keeps a register of users. Anyone may list and read users; creating and
removing them takes a bearer token. One controller instance serves all routes, so that
they share the register.
-/

namespace RouteTree.Demo

/-- What the body of a request to create a user holds. -/
def newUser : Json.Shape := .record "NewUser" [("name", .text)]

/-- The name in such a body. -/
def nameIn (body : Json) : String :=
  match body.get? "name" with
  | some (.string name) => name
  | _ => ""

/-- The id that a request is about. -/
def idOf (request : Request) : Except HttpError Nat :=
  match (request.param? "id").bind unsignedWord? with
  | some id => .ok id
  | none => .error (HttpError.badRequest "Invalid user id")

/-- The error of an id that no user has. -/
def userNotFound (id : Nat) : HttpError :=
  HttpError.notFound ("User " ++ toString id ++ " not found")

/-- All users. -/
def list : Handler Users := fun _ =>
  .read fun users => .succeed (.json (.array (users.toList.map User.toJson)))

/-- The user of an id. -/
def get : Handler Users := fun request =>
  match idOf request with
  | .error e => .fail (Failure.ofHttp e)
  | .ok id => .read fun users =>
    match users.find? id with
    | some user => .succeed (.json user.toJson)
    | none => .fail (Failure.ofHttp (userNotFound id))

/-- Create a user, and answer it with status 201. -/
def create : Handler Users := fun request =>
  match request.json newUser with
  | .error e => .fail (Failure.ofHttp e)
  | .ok body => .read fun users =>
    let (user, users) := users.create (nameIn body)
    .write users (.send ((Reply.json user.toJson).withStatus .created) fun _ => .succeed .absent)

/-- Remove the user of an id. -/
def remove : Handler Users := fun request =>
  match idOf request with
  | .error e => .fail (Failure.ofHttp e)
  | .ok id => .read fun users =>
    match users.find? id with
    | some _ => .write (users.remove id) (.succeed .absent)
    | none => .fail (Failure.ofHttp (userNotFound id))

/-- Controllers of a register of users. -/
def controller : Controller Users :=
  { typeName := "Users"
    label := "Users"
    initial := Users.empty
    handlers := [("list", list), ("get", get), ("create", create), ("remove", remove)] }

/-- Whether a request has a bearer token. -/
def isAuthorized (request : Request) : Bool :=
  match request.header? "authorization" with
  | some value => "Bearer ".toList.isPrefixOf value.toList
  | none => false

/-- Answers requests without a bearer token. -/
def requireBearer : Guard := fun request =>
  if isAuthorized request then .succeed ()
  else
    .send (HttpError.unauthorized "Missing bearer token").toReply fun _ => .succeed ()

/-- The routes of the service. -/
def routes : List (Route Users) :=
  [.node (Node.empty.withController controller)
    [.node ((Node.empty.withPath "users").withOption "tags" (.array [.string "users"]))
      [.node (Node.empty.withHandler "list") [],
        .node (((Node.empty.withMethod .post).withGuard requireBearer).withHandler "create") [],
        .node ((Node.empty.withPath ":id").withRule "id" .integer)
          [.node (Node.empty.withHandler "get") [],
            .node (((Node.empty.withMethod .delete).withGuard requireBearer).withHandler "remove")
              []]]]]

/-- A page that tells that the service is up. -/
def health : Plugin :=
  ⟨"router",
    [("/health", (Reply.json (Json.ofMembers [("status", .string "ok")])).toResponse)]⟩

/-- A server with the routes of the service. -/
def server (config : Config) : Server Users := ((Server.new config).declare routes).server

end RouteTree.Demo

/-!
# Request methods

A method is a non-empty token, written as it was given.
-/

namespace RouteTree

/-- The characters of tokens: letters, digits and some marks, all of them ASCII. -/
def isTokenChar (c : Char) : Bool :=
  c.isAlphanum || c == '!' || c == '#' || c == '$' || c == '%' || c == '&' || c == '\x27' ||
    c == '*' || c == '+' || c == '-' || c == '.' || c == '^' || c == '_' || c == '\x60' ||
    c == '|' || c == '~'

/-- A non-empty sequence of token characters. -/
def isToken (text : String) : Bool := !text.isEmpty && text.toList.all isTokenChar

/-- A request method. -/
structure Method where
  token : String
  deriving DecidableEq, Repr, Inhabited

namespace Method

def get : Method := ⟨"GET"⟩
def head : Method := ⟨"HEAD"⟩
def post : Method := ⟨"POST"⟩
def put : Method := ⟨"PUT"⟩
def patch : Method := ⟨"PATCH"⟩
def delete : Method := ⟨"DELETE"⟩
def options : Method := ⟨"OPTIONS"⟩
def trace : Method := ⟨"TRACE"⟩
def connect : Method := ⟨"CONNECT"⟩

/-- The method of a token. -/
def ofString? (text : String) : Option Method := if isToken text then some ⟨text⟩ else none

/-- The methods that a server can tell apart when it routes a request. -/
def routable : List Method := [get, head, post, put, patch, delete, options, trace, connect]

/-- Whether a server can route the method. -/
def isRoutable (m : Method) : Bool := routable.contains m

end Method

end RouteTree

import RouteTree.Text.Utf8

/-!
# Request targets

A target is a path with an optional query, an asterisk, an authority alone, or a scheme,
an authority and a path. A fragment is dropped. Paths and queries keep their octets as
written; only the characters that may stand in them are checked.
-/

namespace RouteTree

/-- A parsed request target. An authority alone has an empty path. -/
structure Uri where
  scheme : Option String
  authority : String
  path : String
  query : Option String
  deriving DecidableEq, Repr, Inhabited

namespace Uri

/-- Characters of a path. -/
def isPathChar (c : Char) : Bool :=
  let n := c.toNat
  n == 0x21 || (0x24 ≤ n && n ≤ 0x3B) || n == 0x3D || (0x40 ≤ n && n ≤ 0x5F) ||
    (0x61 ≤ n && n ≤ 0x7A) || n == 0x7C || n == 0x7E || n == 0x22 || n == 0x7B || n == 0x7D ||
    0x80 ≤ n

/-- Characters of a query. -/
def isQueryChar (c : Char) : Bool :=
  let n := c.toNat
  n == 0x21 || (0x24 ≤ n && n ≤ 0x3B) || n == 0x3D || (0x3F ≤ n && n ≤ 0x7E) || 0x80 ≤ n

/-- Characters of a scheme. -/
def isSchemeChar (c : Char) : Bool :=
  c.isAlphanum || c == '+' || c == '-' || c == '.' || c == '~'

/-- Characters of an authority, its brackets, colons and at signs included. -/
def isAuthorityChar (c : Char) : Bool :=
  c.isAlphanum || c == '!' || c == '$' || c == '&' || c == '\x27' || c == '(' || c == ')' ||
    c == '*' || c == '+' || c == ',' || c == '-' || c == '.' || c == ':' || c == ';' ||
    c == '=' || c == '@' || c == '[' || c == ']' || c == '_' || c == '~' || c == '%'

/-- A path and the query behind its first question mark, up to a fragment. -/
def pathAndQuery? (text : List Char) : Option (String × Option String) :=
  let endsPath := fun c => c == '?' || c == '#'
  let path := text.takeWhile fun c => !endsPath c
  if !path.all isPathChar then none
  else
    let shown := if path.isEmpty then "/" else String.ofList path
    match text.dropWhile (fun c => !endsPath c) with
    | '?' :: rest =>
      let query := rest.takeWhile (· != '#')
      if query.all isQueryChar then some (shown, some (String.ofList query)) else none
    | _ => some (shown, none)

/-- What has been seen of an authority. -/
structure AuthorityScan where
  colons : Nat
  opened : Bool
  closed : Bool
  percent : Bool
  last : Option Char

/-- One more character of an authority. At most eight colons may stand in a row of
groups; a bracketed address and a user part start the count anew, and a percent sign may
only stand in those two. -/
def AuthorityScan.step (s : AuthorityScan) (c : Char) : Option AuthorityScan :=
  if !isAuthorityChar c then none
  else if c == ':' then
    if 8 ≤ s.colons then none else some { s with colons := s.colons + 1, last := some c }
  else if c == '[' then
    if s.percent || s.opened then none else some { s with opened := true, last := some c }
  else if c == ']' then
    if !s.opened || s.closed then none
    else some { s with closed := true, colons := 0, percent := false, last := some c }
  else if c == '@' then some { s with colons := 0, percent := false, last := some c }
  else if c == '%' then some { s with percent := true, last := some c }
  else some { s with last := some c }

/-- Whether characters form an authority: brackets closed, at most one colon for the
port, something behind an at sign, and no percent sign in the host. -/
def isAuthority (text : List Char) : Bool :=
  match text.foldlM AuthorityScan.step ⟨0, false, false, false, none⟩ with
  | none => false
  | some s => s.opened == s.closed && s.colons ≤ 1 && s.last != some '@' && !s.percent

/-- Split a text at the end of its authority. -/
def spanAuthority (text : List Char) : List Char × List Char :=
  text.span fun c => !(c == '/' || c == '?' || c == '#')

/-- The scheme in front of `://` and the text behind it. -/
def scheme? (text : List Char) : Option (List Char × List Char) :=
  let name := text.takeWhile isSchemeChar
  match text.drop name.length with
  | ':' :: '/' :: '/' :: rest => if text.length ≤ 3 then none else some (name, rest)
  | _ => none

/-- The two well-known schemes in lower case, others as they are. -/
def schemeName (name : List Char) : String :=
  let lower := String.ofList (name.map Char.toLower)
  if lower == "http" || lower == "https" then lower else String.ofList name

/-- A target whose first character is no slash. -/
def absolute? (text : List Char) : Option Uri :=
  match scheme? text with
  | some (name, rest) =>
    let (authority, rest) := spanAuthority rest
    if 64 < name.length || authority.isEmpty || !isAuthority authority then none
    else (pathAndQuery? rest).map fun (path, query) =>
      ⟨some (schemeName name), String.ofList authority, path, query⟩
  | none =>
    let (authority, rest) := spanAuthority text
    if rest.isEmpty && isAuthority authority then some ⟨none, String.ofList authority, "", none⟩
    else none

/-- The target that a text denotes. -/
def parse? (text : String) : Option Uri :=
  if 65534 < text.utf8ByteSize then none
  else
    match text.toList with
    | [] => none
    | ['*'] => some ⟨none, "", "*", none⟩
    | '/' :: rest =>
      (pathAndQuery? ('/' :: rest)).map fun (path, query) => ⟨none, "", path, query⟩
    | chars => absolute? chars

/-- The root path. -/
def root : Uri := ⟨none, "", "/", none⟩

/-- The written form of a target. -/
def toText (u : Uri) : String :=
  (match u.scheme with | some s => s ++ "://" | none => "") ++ u.authority ++ u.path ++
    (match u.query with | some q => "?" ++ q | none => "")

end Uri

end RouteTree

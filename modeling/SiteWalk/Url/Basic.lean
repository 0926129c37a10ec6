import SiteWalk.Url.Host

/-!
# Addresses

A URL taken apart: scheme, authority, path, query and fragment, each part as it
is written.
-/

namespace SiteWalk

open Text

namespace Url

/-- Who is asked.  The host is missing in addresses such as `file:///etc`; an empty
password is no password. -/
structure Authority where
  username : List Char := []
  password : Option (List Char) := none
  host : Option Host := none
  port : Option Nat := none
  deriving DecidableEq, Repr, Inhabited

/-- A path with slashes is a list of segments; what follows the scheme of an
address such as `mailto:a@b` is rootless. -/
inductive Path where
  | rootless (text : List Char)
  | segments (names : List (List Char))
  deriving DecidableEq, Repr, Inhabited

end Url

structure Url where
  scheme : List Char
  authority : Option Url.Authority
  path : Url.Path
  query : Option (List Char) := none
  fragment : Option (List Char) := none
  deriving DecidableEq, Repr, Inhabited

namespace Url

/-! ## Schemes -/

/-- The schemes whose addresses always have a path from the root and whose
backslashes are slashes. -/
def isSpecialScheme (scheme : List Char) : Bool :=
  ["http", "https", "ws", "wss", "ftp", "file"].contains (String.ofList scheme)

def defaultPort? (scheme : List Char) : Option Nat :=
  match String.ofList scheme with
  | "http" => some 80
  | "https" => some 443
  | "ws" => some 80
  | "wss" => some 443
  | "ftp" => some 21
  | _ => none

def isFileScheme (scheme : List Char) : Bool := scheme == "file".toList

/-- The scheme is `http` or `https`. -/
def isWeb (u : Url) : Bool := u.scheme == "http".toList || u.scheme == "https".toList

/-! ## Parts -/

def host? (u : Url) : Option Host := u.authority.bind Authority.host

/-- The host as written, in lower case. -/
def hostText? (u : Url) : Option (List Char) := u.host?.map fun h => lower h.text

/-- The segments of the path; none if it does not start with a slash. -/
def segments? (u : Url) : Option (List (List Char)) :=
  match u.path with
  | .segments [] => none
  | .segments names => some names
  | .rootless _ => none

def dropFragment (u : Url) : Url := { u with fragment := none }

/-! ## Text -/

def Authority.text (a : Authority) : List Char :=
  let user := match a.username, a.password with
    | [], none => []
    | name, none => name ++ ['@']
    | name, some word => name ++ ':' :: word ++ ['@']
  let host := (a.host.map Host.text).getD []
  let port := match a.port with
    | some n => ':' :: decimal n
    | none => []
  user ++ host ++ port

def Path.text : Path → List Char
  | .rootless t => t
  | .segments [] => []
  | .segments names => '/' :: join ['/'] names

/-- A path that would read as an authority is kept apart by `/.`. -/
def pathMark (u : Url) : List Char :=
  match u.authority, u.path with
  | none, .segments ([] :: _ :: _) => ['/', '.']
  | _, _ => []

/-- The address as one text. -/
def text (u : Url) : List Char :=
  let authority := match u.authority with
    | some a => '/' :: '/' :: a.text
    | none => []
  let part (mark : Char) (p : Option (List Char)) : List Char :=
    match p with
    | some t => mark :: t
    | none => []
  u.scheme ++ ':' :: authority ++ u.pathMark ++ u.path.text ++ part '?' u.query ++
    part '#' u.fragment

/-- The address as a string. -/
def toText (u : Url) : String := String.ofList u.text

end Url

end SiteWalk

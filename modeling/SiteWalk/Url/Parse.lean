import SiteWalk.Url.Basic

/-!
# Reading addresses

A text is read on its own or against the address of the page that holds it.
Blanks and controls around it do not count, nor do tabs and line ends inside.
-/

namespace SiteWalk.Url

open Text

/-! ## Cutting -/

/-- The characters that an address is read from. -/
def cleaned (s : List Char) : List Char :=
  let edge (c : Char) : Bool := c.toNat ≤ 32
  let inner := (s.dropWhile edge).reverse.dropWhile edge |>.reverse
  inner.filter fun c => !(c == '\t' || c == '\n' || c == '\r')

def isSchemeChar (c : Char) : Bool := isAlnum c || c == '+' || c == '-' || c == '.'

/-- The scheme in lower case, and what follows its colon. -/
def cutScheme? (s : List Char) : Option (List Char × List Char) :=
  match s with
  | c :: _ =>
    if isLetter c then
      match s.dropWhile isSchemeChar with
      | ':' :: r => some (lower (s.takeWhile isSchemeChar), r)
      | _ => none
    else none
  | [] => none

/-- The character ends a segment in an address of this kind. -/
def isSlash (special : Bool) (c : Char) : Bool := c == '/' || (special && c == '\\')

/-- The character ends the authority. -/
def endsAuthority (special : Bool) (c : Char) : Bool :=
  isSlash special c || c == '?' || c == '#'

def endsPath (c : Char) : Bool := c == '?' || c == '#'

/-! ## Path -/

/-- A letter and a colon or bar, as the drives of some systems are named. -/
def isDrive : List Char → Bool
  | [c, d] => isLetter c && (d == ':' || d == '|')
  | _ => false

def isPlainDrive (s : List Char) : Bool := isDrive s && s.getLast? == some ':'

/-- A segment with each `%2e` written as a dot. -/
def dots : List Char → List Char
  | '%' :: '2' :: c :: r =>
    if c == 'e' || c == 'E' then '.' :: dots r else '%' :: '2' :: c :: dots r
  | c :: r => c :: dots r
  | [] => []

/-- One segment behind those read so far; the last one of a path leaves a slash
behind if it is a dot segment. -/
def addSegment (file : Bool) (names : List (List Char)) (s : List Char) (last : Bool) :
    List (List Char) :=
  let slash := if last then [[]] else []
  if dots s == ['.', '.'] then
    (if names.getLast?.any isDrive then names else names.dropLast) ++ slash
  else if dots s == ['.'] then names ++ slash
  else if file && names.isEmpty && isDrive s then names ++ [s.take 1 ++ [':']]
  else names ++ [Percent.encode Percent.inPath s]

def addSegments (file : Bool) (names : List (List Char)) : List (List Char) → List (List Char)
  | [] => names
  | [s] => addSegment file names s true
  | s :: t :: r => addSegments file (addSegment file names s false) (t :: r)

/-- The segments without empty ones at the front, but at least one. -/
def dropEmpty : List (List Char) → List (List Char)
  | [] :: t :: r => dropEmpty (t :: r)
  | names => names

/-- Reads the rest of a path behind the segments `names`. -/
def pathFrom (scheme : List Char) (names : List (List Char)) (s : List Char) : Path :=
  let file := isFileScheme scheme
  let all := addSegments file names (pieces (isSlash (isSpecialScheme scheme)) s)
  .segments (if file then dropEmpty all else all)

/-- The path after an authority.  Only addresses of no special scheme may have none. -/
def pathAfterAuthority (scheme : List Char) (s : List Char) : Path :=
  let special := isSpecialScheme scheme
  match s with
  | [] => if special then .segments [[]] else .segments []
  | c :: r => if isSlash special c then pathFrom scheme [] r else pathFrom scheme [] s

/-! ## Query and fragment -/

/-- Adds the query and fragment that follow a path. -/
def withRest (u : Url) (s : List Char) : Url :=
  let fragment? (s : List Char) : Option (List Char) :=
    match s with
    | '#' :: r => some (Percent.encode Percent.inFragment r)
    | _ => none
  match s with
  | '?' :: r =>
    let (query, rest) := cutBefore (· == '#') r
    { u with
      query := some (Percent.encode (Percent.inQuery (isSpecialScheme u.scheme)) query)
      fragment := fragment? rest }
  | _ => { u with query := none, fragment := fragment? s }

/-- The address with the fragment that `s` is. -/
def onlyFragment (base : Url) (s : List Char) : Url :=
  { base with fragment := some (Percent.encode Percent.inFragment (s.drop 1)) }

/-- The address with the path that `s` starts with, read by `path`, and the query
and fragment behind it. -/
def withPath (u : Url) (path : List Char → Path) (s : List Char) : Url :=
  let (front, rest) := cutBefore endsPath s
  withRest { u with path := path front } rest

/-! ## Authority -/

/-- User name and password of the text before an `@`. -/
def user (s : List Char) : Authority :=
  let (name, word) := cutBefore (· == ':') s
  { username := Percent.encode Percent.inUser name
    password :=
      if word.length ≤ 1 then none
      else some (Percent.encode Percent.inUser (word.drop 1)) }

/-- Cuts before the colon of a port, which does not stand in brackets. -/
def cutPort : Bool → List Char → List Char × List Char
  | _, [] => ([], [])
  | inside, c :: r =>
    if c == ':' && !inside then ([], c :: r)
    else
      let (front, back) := cutPort (c == '[' || (inside && c != ']')) r
      (c :: front, back)

/-- The number behind a colon; the scheme's own port is not kept.  The text ends
where the port has to end. -/
def port? (scheme : List Char) (s : List Char) : Except ParseError (Option Nat) :=
  match s with
  | ':' :: digits =>
    if digits.isEmpty then .ok none
    else
      match decimal? digits with
      | some n =>
        if n > 65535 then .error .invalidPort
        else .ok (if defaultPort? scheme == some n then none else some n)
      | none => .error .invalidPort
  | _ => .ok none

/-- Reads an authority, up to where it ends in `s`, and gives back the rest. -/
def authority? (scheme : List Char) (s : List Char) :
    Except ParseError (Authority × List Char) := do
  let special := isSpecialScheme scheme
  let (inside, rest) := cutBefore (endsAuthority special) s
  let (who, place) := match cutLast? '@' inside with
    | some (front, back) => (some front, back)
    | none => (none, inside)
  if who == some [] && place.isEmpty && !rest.isEmpty then throw .emptyHost
  let a := user (who.getD [])
  let (hostText, portText) := cutPort false place
  if hostText.isEmpty then
    if special || !portText.isEmpty then throw .emptyHost
    if !a.username.isEmpty || a.password.isSome then throw .emptyHost
    return (a, rest)
  let host ← if special then Host.ofNetwork hostText else Host.ofText hostText
  -- A backslash ends a port under every scheme, but an authority only under some.
  let (digits, after) := cutBefore (· == '\\') portText
  let port ← port? scheme digits
  return ({ a with host := some host, port := port }, after ++ rest)

/-- Reads what follows `//`. -/
def afterSlashes (scheme : List Char) (s : List Char) : Except ParseError Url := do
  let (a, rest) ← authority? scheme s
  return withPath { scheme := scheme, authority := some a, path := .segments [] }
    (pathAfterAuthority scheme) rest

/-! ## Files -/

/-- An address of the scheme `file`, where a host is optional and `localhost` is none. -/
def fileHost? (s : List Char) : Except ParseError (Option Host) :=
  if s.isEmpty then .ok none
  else do
    let h ← Host.ofNetwork s
    return if h == .name "localhost".toList then none else some h

/-- The rest `s` starts with the name of a drive. -/
def startsWithDrive (s : List Char) : Bool :=
  isDrive (s.take 2) && (s.drop 2).head?.all fun c => endsAuthority true c

def fileScheme : List Char := "file".toList

/-- An address of the scheme `file` with this host. -/
def fileUrl (host : Option Host) : Url :=
  { scheme := fileScheme, authority := some { host := host }, path := .segments [] }

/-- The path of a file; a host does not go with a drive. -/
def withFilePath (host : Option Host) (s : List Char) : Url :=
  let u := withPath (fileUrl host) (pathAfterAuthority fileScheme) s
  match u.path with
  | .segments (d :: _) => if isPlainDrive d then { u with authority := some {} } else u
  | _ => u

/-- Reads what follows `file:`, against the address of a file if there is one. -/
def file (base : Option Url) (s : List Char) : Except ParseError Url :=
  let absolute := withPath (fileUrl none) (pathFrom fileScheme []) s
  match s with
  | c :: r =>
    if isSlash true c then
      match r with
      | d :: r2 =>
        if isSlash true d then
          let (hostText, rest) := cutBefore (endsAuthority true) r2
          if isDrive hostText then .ok (withPath (fileUrl none) (pathFrom fileScheme []) r2)
          else do
            let host ← fileHost? hostText
            return withFilePath host rest
        else .ok (rooted r)
      | [] => .ok (rooted r)
    else
      match base with
      | none => .ok absolute
      | some b =>
        if c == '?' then .ok (withRest b s)
        else if c == '#' then .ok (onlyFragment b s)
        else if startsWithDrive s then .ok absolute
        else
          .ok (withPath b
            (fun front => match b.path with
              | .segments names =>
                pathFrom fileScheme
                  (if names.getLast?.any isPlainDrive then names else names.dropLast) front
              | .rootless _ => pathFrom fileScheme [] front)
            s)
  | [] =>
    match base with
    | some b => .ok b.dropFragment
    | none => .ok absolute
where
  /-- A path from the root, on the drive or the host of the base. -/
  rooted (r : List Char) : Url :=
    if startsWithDrive r then withPath (fileUrl none) (pathFrom fileScheme []) r
    else
      match base.bind segments? with
      | some (d :: _) =>
        if isPlainDrive d then withPath (fileUrl none) (pathFrom fileScheme [d]) r
        else withPath (fileUrl (base.bind host?)) (pathFrom fileScheme []) r
      | _ => withPath (fileUrl none) (pathFrom fileScheme []) r

/-! ## Addresses -/

/-- Reads a text without scheme against an address that is no file's. -/
def relative (base : Url) (s : List Char) : Except ParseError Url :=
  match s with
  | [] => .ok base.dropFragment
  | c :: r =>
    if c == '?' then .ok (withRest base s)
    else if c == '#' then .ok (onlyFragment base s)
    else if isSlash true c then
      match r with
      | d :: r2 =>
        if isSlash true d then
          afterSlashes base.scheme
            (if c == '/' && d == '/' then r2 else r2.dropWhile (isSlash true))
        else .ok (withPath base (pathFrom base.scheme []) r)
      | [] => .ok (withPath base (pathFrom base.scheme []) r)
    else
      let names := match base.path with
        | .segments names => names.dropLast
        | .rootless _ => []
      .ok (withPath base (pathFrom base.scheme names) s)

/-- Reads what follows the colon of a scheme. -/
def absolute (base : Option Url) (scheme : List Char) (s : List Char) : Except ParseError Url :=
  if isFileScheme scheme then file (base.filter fun b => isFileScheme b.scheme) s
  else if isSpecialScheme scheme then
    let slashes := (s.takeWhile (isSlash true)).length
    match base.filter fun b => b.scheme == scheme with
    | some b => if slashes < 2 then relative b s else afterSlashes scheme (s.drop slashes)
    | none => afterSlashes scheme (s.drop slashes)
  else
    match s with
    | '/' :: '/' :: r => afterSlashes scheme r
    | '/' :: r =>
      .ok (withPath { scheme := scheme, authority := none, path := .segments [] }
        (pathFrom scheme []) r)
    | _ =>
      .ok (withPath { scheme := scheme, authority := none, path := .segments [] }
        (fun front => .rootless (Percent.encode Percent.isControl front)) s)

/-- Reads an address, against that of the page it stands on if there is one. -/
def parseWith (base : Option Url) (text : List Char) : Except ParseError Url :=
  let s := cleaned text
  match cutScheme? s with
  | some (scheme, r) => absolute base scheme r
  | none =>
    match base with
    | none => .error .relativeWithoutBase
    | some b =>
      match s, b.path with
      | '#' :: _, _ => .ok (onlyFragment b s)
      | _, .rootless _ => .error .relativeToRootless
      | _, _ => if isFileScheme b.scheme then file base s else relative b s

/-- Reads an address on its own. -/
def parse (text : List Char) : Except ParseError Url := parseWith none text

end SiteWalk.Url

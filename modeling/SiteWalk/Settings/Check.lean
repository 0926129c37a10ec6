import SiteWalk.Link.Resolve
import SiteWalk.Settings.Basic

/-!
# Checking settings

The rules that settings have to keep before a profile is made of them.  They are
asked in order, and the first that is broken is the answer.
-/

namespace SiteWalk.Settings

open Text

/-- A rule that settings break. -/
inductive Fault where
  | noCategory
  | pageWithSlash (word : String)
  | noUserAgent
  | noTimeout
  | noUsername
  | headerName (name : String)
  | headerValue (name : String)
  | noCookieName
  | cookieName (name : String)
  | cookieValue (name : String)
  deriving DecidableEq, Repr, Inhabited

def Fault.message : Fault → String
  | .noCategory => "types_to_scrape must name at least one category"
  | .pageWithSlash w => "exclude_pages entries are single path segments, got '" ++ w ++ "'"
  | .noUserAgent => "user_agent cannot be empty"
  | .noTimeout => "timeout_secs must be >= 1"
  | .noUsername => "basic_auth username cannot be empty"
  | .headerName n => "Invalid header name: '" ++ n ++ "'"
  | .headerValue n => "Invalid value for header '" ++ n ++ "'"
  | .noCookieName => "cookie name cannot be empty"
  | .cookieName n => "Invalid cookie name: '" ++ n ++ "'"
  | .cookieValue n => "Invalid value for cookie '" ++ n ++ "'"

/-! ## Headers and cookies -/

/-- A character of a header's name. -/
def isTokenChar (c : Char) : Bool := isAlnum c || "!#$%&'*+-.^_`|~".toList.contains c

/-- The longest name of a header. -/
def nameLimit : Nat := 65535

def isHeaderName (s : String) : Bool :=
  !s.toList.isEmpty && s.toList.length ≤ nameLimit && s.toList.all isTokenChar

/-- A character that the value of a header may hold. -/
def isHeaderChar (c : Char) : Bool := c == '\t' || (32 ≤ c.toNat && c.toNat != 127)

def isHeaderValue (s : String) : Bool := s.toList.all isHeaderChar

def isCookieNameChar (c : Char) : Bool :=
  !(c == ';' || c == '=' || isBlank c || isControl c)

def isCookieChar (c : Char) : Bool := !(c == ';' || isControl c)

def headerFault? (e : String × String) : Option Fault :=
  if !isHeaderName e.1 then some (.headerName e.1)
  else if !isHeaderValue e.2 then some (.headerValue e.1)
  else none

def cookieFault? (e : String × String) : Option Fault :=
  if e.1.toList.isEmpty then some .noCookieName
  else if !e.1.toList.all isCookieNameChar then some (.cookieName e.1)
  else if !e.2.toList.all isCookieChar then some (.cookieValue e.1)
  else none

/-! ## Settings -/

def Walk.fault? (w : Walk) : Option Fault :=
  if w.categories.isEmpty then some .noCategory
  else
    ((Link.wordList w.excludedPages).find? fun s => s.toList.contains '/').map .pageWithSlash

def Request.fault? (r : Request) : Option Fault :=
  if isBlankString r.userAgent then some .noUserAgent
  else if r.timeout = 0 then some .noTimeout
  else if r.credentials.any fun c => c.username.toList.isEmpty then some .noUsername
  else (r.headers.entries.findSome? headerFault?).or (r.cookies.entries.findSome? cookieFault?)

/-- The first rule that the settings break. -/
def fault? (s : Settings) : Option Fault := s.walk.fault?.or s.request.fault?

end SiteWalk.Settings

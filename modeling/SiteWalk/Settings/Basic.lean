import SiteWalk.Extract.Mode
import SiteWalk.Link.Category
import SiteWalk.TextMap

/-!
# Settings

What the author of a profile may set, before anything is checked.  Every part has
a default.
-/

namespace SiteWalk

namespace Settings

/-- Which links are followed, how far and how fast. -/
structure Walk where
  depth : Nat
  hostOnly : Bool
  bodyOnly : Bool
  includeSource : Bool
  excludedPages : String
  includePattern : Option String
  excludePattern : Option String
  categories : List Link.Category
  coolDown : Nat
  deriving DecidableEq, Inhabited

/-- What is taken from a page. -/
structure Content where
  mode : Extract.Mode
  urlOnTop : Bool
  selector : String
  removedTags : String
  deriving DecidableEq, Inhabited

structure Credentials where
  username : String
  password : Option String
  deriving DecidableEq, Inhabited

/-- How pages are asked for. -/
structure Request where
  userAgent : String
  timeout : Nat
  credentials : Option Credentials
  headers : TextMap
  cookies : TextMap
  deriving DecidableEq, Inhabited

/-! ## Defaults -/

/-- Pages that hold no content of a site. -/
def sidePages : List String :=
  ["privacy", "privacy-policy", "privacy_policy", "terms", "terms-of-service",
   "terms_of_service", "terms-and-conditions", "terms_and_conditions", "cookies",
   "cookie-policy", "cookie_policy", "login", "log-in", "log_in", "signin", "sign-in",
   "sign_in", "register", "signup", "sign-up", "sign_up"]

def Walk.standard : Walk where
  depth := 1
  hostOnly := true
  bodyOnly := true
  includeSource := false
  excludedPages := "\n".intercalate sidePages
  includePattern := none
  excludePattern := none
  categories := [.webpages]
  coolDown := 500

def Content.standard : Content where
  mode := .readability
  urlOnTop := false
  selector := "body"
  removedTags := "script\nstyle"

def Request.standard : Request where
  userAgent := "depthcrawl/1.0.0"
  timeout := 30
  credentials := none
  headers := .empty
  cookies := .empty

end Settings

structure Settings where
  walk : Settings.Walk
  content : Settings.Content
  request : Settings.Request
  deriving DecidableEq, Inhabited

def Settings.standard : Settings := ⟨.standard, .standard, .standard⟩

end SiteWalk

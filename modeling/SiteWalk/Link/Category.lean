import SiteWalk.Url.Basic

/-!
# Categories of links

What a link leads to, judged by the extension of its last path segment.
-/

namespace SiteWalk.Link

open Text

inductive Category where
  | webpages
  | images
  | pdfs
  | docs
  | videos
  | audios
  | archives
  | scripts
  | others
  deriving DecidableEq, Repr, Inhabited

namespace Category

def all : List Category :=
  [.webpages, .images, .pdfs, .docs, .videos, .audios, .archives, .scripts, .others]

def name : Category → String
  | .webpages => "webpages"
  | .images => "images"
  | .pdfs => "pdfs"
  | .docs => "docs"
  | .videos => "videos"
  | .audios => "audios"
  | .archives => "archives"
  | .scripts => "scripts"
  | .others => "others"

/-- The category of a name. -/
def ofName? (s : String) : Option Category := all.find? fun c => c.name == s

/-- The category of an extension in lower case, or of none. -/
def ofExtension : Option String → Category
  | none => .webpages
  | some e =>
    if ["html", "htm", "asp", "aspx", "php"].contains e then .webpages
    else if ["jpg", "jpeg", "png", "gif"].contains e then .images
    else if e == "pdf" then .pdfs
    else if ["doc", "docx"].contains e then .docs
    else if ["mp4", "avi", "mov"].contains e then .videos
    else if ["mp3", "wav"].contains e then .audios
    else if ["zip", "rar", "7z"].contains e then .archives
    else if ["js", "css"].contains e then .scripts
    else .others

end Category

/-- What stands behind the last dot of the last path segment, in lower case; nothing
counts as no extension. -/
def extension? (u : Url) : Option String := do
  let last ← (← u.segments?).getLast?
  let (_, e) ← cutLast? '.' last
  if e.isEmpty then none else some (String.ofList (lower e))

def category (u : Url) : Category := .ofExtension (extension? u)

end SiteWalk.Link

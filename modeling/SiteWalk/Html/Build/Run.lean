import SiteWalk.Html.Build.Table
import SiteWalk.Html.Lexer

/-!
# Building a document

The lexer and the rules take turns: each token is placed before the next one is
read, since its place decides how the text after it is read.
-/

namespace SiteWalk.Html.Build

open Text

/-! ## Before the body -/

/-- Public identifiers that ask for the old layout rules, by how they begin. -/
def oldPublicIds : List String :=
  ["-//advasoft ltd//dtd html 3.0 aswedit + extensions//", "-//as//dtd html 3.0 aswedit + extensions//",
   "-//ietf//dtd html 2.0 level 1//", "-//ietf//dtd html 2.0 level 2//",
   "-//ietf//dtd html 2.0 strict level 1//", "-//ietf//dtd html 2.0 strict level 2//",
   "-//ietf//dtd html 2.0 strict//", "-//ietf//dtd html 2.0//", "-//ietf//dtd html 2.1e//",
   "-//ietf//dtd html 3.0//", "-//ietf//dtd html 3.2 final//", "-//ietf//dtd html 3.2//",
   "-//ietf//dtd html 3//", "-//ietf//dtd html level 0//", "-//ietf//dtd html level 1//",
   "-//ietf//dtd html level 2//", "-//ietf//dtd html level 3//",
   "-//ietf//dtd html strict level 0//", "-//ietf//dtd html strict level 1//",
   "-//ietf//dtd html strict level 2//", "-//ietf//dtd html strict level 3//",
   "-//ietf//dtd html strict//", "-//ietf//dtd html//", "-//metrius//dtd metrius presentational//",
   "-//microsoft//dtd internet explorer 2.0 html strict//",
   "-//microsoft//dtd internet explorer 2.0 html//",
   "-//microsoft//dtd internet explorer 2.0 tables//",
   "-//microsoft//dtd internet explorer 3.0 html strict//",
   "-//microsoft//dtd internet explorer 3.0 html//",
   "-//microsoft//dtd internet explorer 3.0 tables//", "-//netscape comm. corp.//dtd html//",
   "-//netscape comm. corp.//dtd strict html//", "-//o'reilly and associates//dtd html 2.0//",
   "-//o'reilly and associates//dtd html extended 1.0//",
   "-//o'reilly and associates//dtd html extended relaxed 1.0//",
   "-//softquad software//dtd hotmetal pro 6.0::19990601::extensions to html 4.0//",
   "-//softquad//dtd hotmetal pro 4.0::19971010::extensions to html 4.0//",
   "-//spyglass//dtd html 2.0 extended//", "-//sq//dtd html 2.0 hotmetal + extensions//",
   "-//sun microsystems corp.//dtd hotjava html//",
   "-//sun microsystems corp.//dtd hotjava strict html//", "-//w3c//dtd html 3 1995-03-24//",
   "-//w3c//dtd html 3.2 draft//", "-//w3c//dtd html 3.2 final//", "-//w3c//dtd html 3.2//",
   "-//w3c//dtd html 3.2s draft//", "-//w3c//dtd html 4.0 frameset//",
   "-//w3c//dtd html 4.0 transitional//", "-//w3c//dtd html experimental 19960712//",
   "-//w3c//dtd html experimental 970421//", "-//w3c//dtd w3 html//", "-//w3o//dtd w3 html 3.0//",
   "-//webtechs//dtd mozilla html 2.0//", "-//webtechs//dtd mozilla html//"]

/-- The document type asks for the old layout rules, under which a table does not
close a paragraph. -/
def isOld (d : Doctype) : Bool :=
  let publicId := (d.publicId.map lowerString).getD ""
  let begins (p : String) : Bool := p.toList.isPrefixOf publicId.toList
  d.malformed || d.name != some "html" ||
    ["-//w3o//dtd w3 html strict 3.0//en//", "-/w3c/dtd html 4.0 transitional/en",
      "html"].contains publicId ||
    d.systemId.map lowerString == some "http://www.ibm.com/data/dtd/v11/ibmxhtml1-transitional.dtd" ||
    oldPublicIds.any begins ||
    (d.systemId.isNone &&
      (begins "-//w3c//dtd html 4.01 frameset//" || begins "-//w3c//dtd html 4.01 transitional//"))

/-- The root element. -/
def insertRoot (attrs : List (String × String)) : Edit Unit := do
  let n ← makeElement .html "html" (plainAttrs attrs)
  push n
  modify fun s => { s with arena := s.arena.append 0 n }

def initial (t : Token) : Edit Outcome := do
  match t with
  | .blank _ => return .done
  | .comment s => addComment 0 s; return .done
  | _ =>
    modify fun s => { s with quirks := true }
    return .again .beforeHtml t

def beforeHtml (t : Token) : Edit Outcome := do
  let leave : Edit Outcome := do
    insertRoot []
    return .again .beforeHead t
  match t with
  | .blank _ => return .done
  | .comment s => addComment 0 s; return .done
  | .startTag tag =>
    if tag.name == "html" then
      insertRoot tag.attrs
      setMode .beforeHead
      return .done
    else leave
  | .endTag tag =>
    if ["head", "body", "html", "br"].contains tag.name then leave else return .done
  | _ => leave

def beforeHead (t : Token) : Edit Outcome := do
  let insertHead (tag : Tag) : Edit Unit := do
    let n ← insertTag tag
    modify fun s => { s with head := some n }
  let leave : Edit Outcome := do
    insertHead ⟨"head", [], false⟩
    return .again .inHead t
  match t with
  | .blank _ => return .done
  | .comment s => insertComment s; return .done
  | .startTag tag =>
    if tag.name == "html" then mergeRoot tag
    else if tag.name == "head" then
      insertHead tag
      setMode .inHead
      return .done
    else leave
  | .endTag tag =>
    if ["head", "body", "html", "br"].contains tag.name then leave else return .done
  | _ => leave

def afterHead (t : Token) : Edit Outcome := do
  let leave : Edit Outcome := do
    insertImplied "body"
    return .again .inBody t
  match t with
  | .blank s => insertText s; return .done
  | .comment s => insertComment s; return .done
  | .startTag tag =>
    if tag.name == "html" then mergeRoot tag
    else if tag.name == "body" then
      let _ ← insertTag tag
      modify fun s => { s with framesetOk := false, mode := .inBody }
      return .done
    else if tag.name == "frameset" then
      let _ ← insertTag tag
      setMode .inFrameset
      return .done
    else if headTags.contains tag.name then
      match (← get).head with
      | some n =>
        push n
        let outcome ← headStart tag
        removeOpened n
        return outcome
      | none => return .done
    else if tag.name == "head" then return .done
    else leave
  | .endTag tag =>
    if tag.name == "template" then endTemplate
    else if ["body", "html", "br"].contains tag.name then leave
    else return .done
  | _ => leave

/-! ## Rules of all modes -/

def inMode (m : Mode) (t : Token) : Edit Outcome :=
  match m with
  | .initial => initial t
  | .beforeHtml => beforeHtml t
  | .beforeHead => beforeHead t
  | .inHead => inHead t
  | .afterHead => afterHead t
  | .inBody => inBody t
  | .text => inText t
  | .inTable => inTable t
  | .inTableText => inTableText t
  | .inCaption => inCaption t
  | .inColumnGroup => inColumnGroup t
  | .inTableBody => inTableBody t
  | .inRow => inRow t
  | .inCell => inCell t
  | .inSelect => inSelect t
  | .inSelectInTable => inSelectInTable t
  | .inTemplate => inTemplate t
  | .afterBody => afterBody t
  | .inFrameset => inFrameset t
  | .afterFrameset => afterFrameset t
  | .afterAfterBody => afterAfterBody t
  | .afterAfterFrameset => afterAfterFrameset t

def inForeign (t : Token) : Edit Outcome := do
  match t with
  | .null => insertText (String.singleton replacement); return .done
  | .blank s => insertText s; return .done
  | .text s =>
    notFramesetOk
    insertText s
    return .done
  | .comment s => insertComment s; return .done
  | .startTag tag =>
    if breakout.contains tag.name then breakOut tag
    else if tag.name == "font" && tag.attrs.any fun a => ["color", "face", "size"].contains a.1
    then breakOut tag
    else foreignStart tag
  | .endTag tag =>
    let s ← get
    match s.foreignEnd tag.name with
    | .nothing => return .done
    | .upTo rest =>
      set { s with opened := rest }
      return .done
    | .html => inMode s.mode t
  | _ => return .done

/-! ## Tokens -/

/-- Places a token, at most `rounds` rules one after another. -/
def place (t : Token) : Nat → Edit Unit
  | 0 => pure ()
  | rounds + 1 => do
    let s ← get
    let outcome ← if s.isForeign t then inForeign t else inMode s.mode t
    match outcome with
    | .done => pure ()
    | .again m t' => do
      setMode m
      place t' rounds
    | .retry t' => place t' rounds

/-- Rounds enough for one token: between two closings of an element or template
the mode changes at most once for each mode. -/
def State.rounds (s : State) : Nat := 32 * (s.opened.length + s.templateModes.length + 8)

/-- A token without the line feed that its first run begins with. -/
def withoutLineFeed (t : Token) : Option Token :=
  match t with
  | .blank s =>
    match s.toList with
    | '\n' :: [] => none
    | '\n' :: r => some (.blank (String.ofList r))
    | _ => some t
  | _ => some t

def accept (t : Token) : Edit Unit := do
  let s ← get
  set { s with dropLineFeed := false }
  match t with
  | .doctype d =>
    if s.mode == .initial then
      modify fun s =>
        let (n, arena) := s.arena.add (.doctype (d.name.getD ""))
        { s with arena := arena.append 0 n, quirks := isOld d, mode := .beforeHtml }
  | _ =>
    match if s.dropLineFeed then withoutLineFeed t else some t with
    | some t => place t s.rounds
    | none => pure ()

/-- The current element is no element of HTML. -/
def State.isAmongForeign (s : State) : Bool := s.currentIs (·.vocabulary != .html)

/-- The tokens of a text placed one after another. -/
def feed (s : List Char) (state : State) : State :=
  match s with
  | [] => (accept .eof state).2
  | c :: r =>
    let step := next state.reading state.isAmongForeign c r
    feed step.2 (step.1.foldl (fun st t => (accept t st).2) state)
termination_by s.length
decreasing_by exact next_length state.reading state.isAmongForeign c r

/-- The nodes of a document. -/
def arenaOf (text : List Char) : Arena := (feed (normalize text) {}).arena

end SiteWalk.Html.Build

import SiteWalk.Html.Build.Foreign

/-!
# Rules for the head and the body

The rules for tokens in the head and in the body of a document.  Other modes
fall back on these.
-/

namespace SiteWalk.Html.Build

open Text

/-! ## Head -/

/-- A second `html` tag: its attributes go to the root element. -/
def mergeRoot (t : Tag) : Edit Outcome := do
  let s ← get
  if !s.inTemplate then
    set { s with arena := s.arena.addAttrs s.root (plainAttrs t.attrs) }
  return .done

/-- Tags that the rules for the head place wherever they stand. -/
def headTags : List String :=
  ["base", "basefont", "bgsound", "link", "meta", "noframes", "script", "style", "template",
   "title"]

/-- The end of a template. -/
def endTemplate : Edit Outcome := do
  if (← get).inTemplate then
    popWhile (·.isIn thoroughImpliedEnd)
    popThroughNamed "template"
    clearToMarker
    modify fun s => { s with templateModes := s.templateModes.drop 1 }
    resetMode
  return .done

/-- One of the `headTags`. -/
def headStart (t : Tag) : Edit Outcome := do
  if ["base", "basefont", "bgsound", "link", "meta"].contains t.name then
    let _ ← insertClosedTag t
  else if t.name == "title" then
    let _ ← insertTag t
    readRaw (.escapable "title")
  else if t.name == "script" then
    let _ ← insertTag t
    readRaw .script
  else if t.name == "template" then
    let _ ← insertTag t
    pushMarker
    modify fun s =>
      { s with framesetOk := false, mode := .inTemplate,
               templateModes := .inTemplate :: s.templateModes }
  else
    let _ ← insertTag t
    readRaw (.raw t.name)
  return .done

def inHead (t : Token) : Edit Outcome := do
  let leave : Edit Outcome := do
    pop
    return .again .afterHead t
  match t with
  | .blank s => insertText s; return .done
  | .comment s => insertComment s; return .done
  | .startTag tag =>
    if tag.name == "html" then mergeRoot tag
    else if headTags.contains tag.name || tag.name == "noscript" then headStart tag
    else if tag.name == "head" then return .done
    else leave
  | .endTag tag =>
    if tag.name == "head" then
      pop
      setMode .afterHead
      return .done
    else if ["body", "html", "br"].contains tag.name then leave
    else if tag.name == "template" then endTemplate
    else return .done
  | _ => leave

/-! ## Body -/

/-- The end of the document inside templates. -/
def endOfTemplates : Edit Outcome := do
  if (← get).inTemplate then
    popThroughNamed "template"
    clearToMarker
    modify fun s => { s with templateModes := s.templateModes.drop 1 }
    resetMode
    return .retry .eof
  else return .done

/-- The end of the document. -/
def endOfBody : Edit Outcome := do
  if (← get).templateModes.isEmpty then return .done else endOfTemplates

def isHidden (t : Tag) : Bool :=
  t.attrs.any fun a => a.1 == "type" && lowerString a.2 == "hidden"

/-- An element without content in the flow of text. -/
def voidStart (t : Tag) : Edit Outcome := do
  reconstruct
  let _ ← insertClosedTag t
  if !(t.name == "input" && isHidden t) then notFramesetOk
  return .done

/-- A list item or a part of a definition list: an open one closes first. -/
def itemStart (t : Tag) : Edit Outcome := do
  notFramesetOk
  let s ← get
  let closes := if t.name == "li" then ["li"] else ["dd", "dt"]
  let stops (n : Nat) : Bool :=
    s.elementIs (fun e => e.isIn closes || (e.isIn special && !e.isIn ["address", "div", "p"])) n
  match (s.opened.find? stops).bind s.element? with
  | some e =>
    if e.isIn closes then
      closeImpliedExcept e.name
      popThroughNamed e.name
  | none => pure ()
  closeParagraphInScope
  let _ ← insertTag t
  return .done

/-- Blocks that close an open paragraph. -/
def blockTags : List String :=
  ["address", "article", "aside", "blockquote", "center", "details", "dialog", "dir", "div", "dl",
   "fieldset", "figcaption", "figure", "footer", "header", "hgroup", "main", "menu", "nav", "ol",
   "p", "section", "summary", "ul"]

def formattingTags : List String :=
  ["b", "big", "code", "em", "font", "i", "s", "small", "strike", "strong", "tt", "u"]

/-- Tags that only tables and framesets can place. -/
def strayTags : List String :=
  ["caption", "col", "colgroup", "frame", "head", "tbody", "td", "tfoot", "th", "thead", "tr"]

def bodyStart (t : Tag) : Edit Outcome := do
  let open' : Edit Outcome := do
    let _ ← insertTag t
    return .done
  let raw (mode : TextMode) : Edit Outcome := do
    let _ ← insertTag t
    readRaw mode
    return .done
  let name := t.name
  if name == "html" then mergeRoot t
  else if headTags.contains name then headStart t
  else if name == "body" then
    let s ← get
    match s.body? with
    | some n =>
      if !s.inTemplate then
        set { s with framesetOk := false, arena := s.arena.addAttrs n (plainAttrs t.attrs) }
      return .done
    | none => return .done
  else if name == "frameset" then
    let s ← get
    match s.framesetOk, s.body? with
    | true, some n =>
      set { s with arena := s.arena.detach n, opened := [s.root] }
      let _ ← insertTag t
      setMode .inFrameset
      return .done
    | _, _ => return .done
  else if blockTags.contains name then
    closeParagraphInScope
    open'
  else if headings.contains name then
    closeParagraphInScope
    if (← get).currentIs (·.isIn headings) then pop
    open'
  else if name == "pre" || name == "listing" then
    closeParagraphInScope
    let _ ← insertTag t
    modify fun s => { s with dropLineFeed := true, framesetOk := false }
    return .done
  else if name == "form" then
    let s ← get
    if s.form.isSome && !s.inTemplate then return .done
    else
      closeParagraphInScope
      let n ← insertTag t
      modify fun s => if s.inTemplate then s else { s with form := some n }
      return .done
  else if ["li", "dd", "dt"].contains name then itemStart t
  else if name == "plaintext" then
    closeParagraphInScope
    let _ ← insertTag t
    modify fun s => { s with reading := .plain }
    return .done
  else if name == "button" then
    if (← get).inScope defaultScope "button" then
      closeImplied
      popThroughNamed "button"
    reconstruct
    let _ ← insertTag t
    notFramesetOk
    return .done
  else if name == "a" then
    let s ← get
    match (sinceMarker s.formatting).find? (s.elementIs (·.is "a") ·.1) with
    | some (n, _) =>
      adopt "a"
      removeFormatting n
      removeOpened n
    | none => pure ()
    reconstruct
    insertFormatting t
    return .done
  else if formattingTags.contains name then
    reconstruct
    insertFormatting t
    return .done
  else if name == "nobr" then
    reconstruct
    if (← get).inScope defaultScope "nobr" then
      adopt "nobr"
      reconstruct
    insertFormatting t
    return .done
  else if ["applet", "marquee", "object"].contains name then
    reconstruct
    let _ ← insertTag t
    pushMarker
    notFramesetOk
    return .done
  else if name == "table" then
    if !(← get).quirks then closeParagraphInScope
    let _ ← insertTag t
    modify fun s => { s with framesetOk := false, mode := .inTable }
    return .done
  else if ["area", "br", "embed", "img", "keygen", "wbr", "input"].contains name then voidStart t
  else if ["param", "source", "track"].contains name then
    let _ ← insertClosedTag t
    return .done
  else if name == "hr" then
    closeParagraphInScope
    let _ ← insertClosedTag t
    notFramesetOk
    return .done
  else if name == "image" then voidStart { t with name := "img" }
  else if name == "textarea" then
    modify fun s => { s with dropLineFeed := true, framesetOk := false }
    raw (.escapable name)
  else if name == "xmp" then
    closeParagraphInScope
    reconstruct
    notFramesetOk
    raw (.raw name)
  else if name == "iframe" then
    notFramesetOk
    raw (.raw name)
  else if name == "noembed" || name == "noscript" then raw (.raw name)
  else if name == "select" then
    reconstruct
    let _ ← insertTag t
    modify fun s =>
      { s with
        framesetOk := false
        mode :=
          if [.inTable, .inCaption, .inTableBody, .inRow, .inCell].contains s.mode then
            .inSelectInTable
          else .inSelect }
    return .done
  else if name == "optgroup" || name == "option" then
    if (← get).currentIs (·.is "option") then pop
    reconstruct
    open'
  else if name == "rb" || name == "rtc" then
    if (← get).inScope defaultScope "ruby" then closeImplied
    open'
  else if name == "rp" || name == "rt" then
    if (← get).inScope defaultScope "ruby" then closeImpliedExcept "rtc"
    open'
  else if name == "math" then
    reconstruct
    enterForeign .mathml t
  else if name == "svg" then
    reconstruct
    enterForeign .svg t
  else if strayTags.contains name then return .done
  else
    reconstruct
    open'

/-- Blocks that an end tag closes with all that is open inside them. -/
def closableTags : List String :=
  ["address", "article", "aside", "blockquote", "button", "center", "details", "dialog", "dir",
   "div", "dl", "fieldset", "figcaption", "figure", "footer", "header", "hgroup", "listing",
   "main", "menu", "nav", "ol", "pre", "section", "summary", "ul"]

def bodyEnd (t : Tag) : Edit Outcome := do
  let name := t.name
  if name == "template" then endTemplate
  else if name == "body" then
    if (← get).inScope defaultScope "body" then setMode .afterBody
    return .done
  else if name == "html" then
    if (← get).inScope defaultScope "body" then return .again .afterBody (.endTag t)
    else return .done
  else if closableTags.contains name then
    if (← get).inScope defaultScope name then
      closeImplied
      popThroughNamed name
    return .done
  else if name == "form" then
    let s ← get
    if s.inTemplate then
      if s.inScope defaultScope "form" then
        closeImplied
        popThroughNamed "form"
    else
      set { s with form := none }
      match s.form with
      | some n =>
        if s.inScopeWhere defaultScope (· == n) then
          closeImplied
          removeOpened n
      | none => pure ()
    return .done
  else if name == "p" then
    if !(← get).inScope buttonScope "p" then insertImplied "p"
    closeParagraph
    return .done
  else if ["li", "dd", "dt"].contains name then
    if (← get).inScope (if name == "li" then listScope else defaultScope) name then
      closeImpliedExcept name
      popThroughNamed name
    return .done
  else if headings.contains name then
    let s ← get
    if s.inScopeWhere defaultScope (s.elementIs (·.isIn headings)) then
      closeImplied
      popThrough (·.isIn headings)
    return .done
  else if formattingTags.contains name || name == "a" || name == "nobr" then
    adopt name
    return .done
  else if ["applet", "marquee", "object"].contains name then
    if (← get).inScope defaultScope name then
      closeImplied
      popThroughNamed name
      clearToMarker
    return .done
  else if name == "br" then voidStart ⟨"br", [], false⟩
  else
    closeOther name
    return .done

def inBody (t : Token) : Edit Outcome := do
  match t with
  | .null => return .done
  | .blank s =>
    reconstruct
    insertText s
    return .done
  | .text s =>
    reconstruct
    notFramesetOk
    insertText s
    return .done
  | .comment s => insertComment s; return .done
  | .startTag tag => bodyStart tag
  | .endTag tag => bodyEnd tag
  | .eof => endOfBody
  | .doctype _ => return .done

/-- Raw text and the end tag after it. -/
def inText (t : Token) : Edit Outcome := do
  match t with
  | .blank s | .text s => insertText s; return .done
  | .eof =>
    pop
    modify fun s => { s with reading := .markup }
    return .again (← get).returnMode t
  | .endTag _ =>
    pop
    modify fun s => { s with mode := s.returnMode, reading := .markup }
    return .done
  | _ => return .done

end SiteWalk.Html.Build

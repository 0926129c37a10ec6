import SiteWalk.Html.Build.Body

/-!
# Rules for tables, selections, templates and framesets
-/

namespace SiteWalk.Html.Build

/-! ## Tables -/

/-- Places a token by the rules of the body, before the table if need be. -/
def foster (t : Token) : Edit Outcome := do
  modify fun s => { s with fostering := true }
  let outcome ← inBody t
  modify fun s => { s with fostering := false }
  return outcome

/-- Text directly inside a table waits until its last run is there. -/
def tableChars (t : Token) : Edit Outcome := do
  let s ← get
  if s.currentIs (·.isIn ["table", "tbody", "tfoot", "thead", "tr"]) then
    set { s with returnMode := s.mode }
    return .again .inTableText t
  else foster t

def inTable (t : Token) : Edit Outcome := do
  let clear : Edit Unit := popTo tableScope
  match t with
  | .null | .blank _ | .text _ => tableChars t
  | .comment s => insertComment s; return .done
  | .startTag tag =>
    let name := tag.name
    if name == "caption" then
      clear
      pushMarker
      let _ ← insertTag tag
      setMode .inCaption
      return .done
    else if name == "colgroup" then
      clear
      let _ ← insertTag tag
      setMode .inColumnGroup
      return .done
    else if name == "col" then
      clear
      insertImplied "colgroup"
      return .again .inColumnGroup t
    else if ["tbody", "tfoot", "thead"].contains name then
      clear
      let _ ← insertTag tag
      setMode .inTableBody
      return .done
    else if ["td", "th", "tr"].contains name then
      clear
      insertImplied "tbody"
      return .again .inTableBody t
    else if name == "table" then
      if (← get).inScope tableScope "table" then
        popThroughNamed "table"
        return .again (← get).resetMode t
      else return .done
    else if ["style", "script", "template"].contains name then headStart tag
    else if name == "input" && isHidden tag then
      let _ ← insertClosedTag tag
      return .done
    else if name == "form" then
      let s ← get
      if !s.inTemplate && s.form.isNone then
        let n ← insertClosedTag tag
        modify fun s => { s with form := some n }
      return .done
    else foster t
  | .endTag tag =>
    if tag.name == "table" then
      if (← get).inScope tableScope "table" then
        popThroughNamed "table"
        resetMode
      return .done
    else if ["body", "caption", "col", "colgroup", "html", "tbody", "td", "tfoot", "th", "thead",
        "tr"].contains tag.name then return .done
    else if tag.name == "template" then endTemplate
    else foster t
  | .eof => endOfBody
  | .doctype _ => return .done

def inTableText (t : Token) : Edit Outcome := do
  match t with
  | .null => return .done
  | .blank s => modify fun st => { st with tableText := (true, s) :: st.tableText }; return .done
  | .text s => modify fun st => { st with tableText := (false, s) :: st.tableText }; return .done
  | _ =>
    let pending := (← get).tableText.reverse
    modify fun s => { s with tableText := [] }
    if pending.all (·.1) then
      for p in pending do insertText p.2
    else
      for p in pending do
        let _ ← foster (if p.1 then .blank p.2 else .text p.2)
    return .again (← get).returnMode t

def inCaption (t : Token) : Edit Outcome := do
  let close (after : Outcome) : Edit Outcome := do
    if (← get).inScope tableScope "caption" then
      closeImplied
      popThroughNamed "caption"
      clearToMarker
      match after with
      | .done => setMode .inTable
      | _ => pure ()
      return after
    else return .done
  match t with
  | .startTag tag =>
    if ["caption", "col", "colgroup", "tbody", "td", "tfoot", "th", "thead", "tr"].contains
        tag.name then close (.again .inTable t)
    else inBody t
  | .endTag tag =>
    if tag.name == "table" then close (.again .inTable t)
    else if tag.name == "caption" then close .done
    else if ["body", "col", "colgroup", "html", "tbody", "td", "tfoot", "th", "thead",
        "tr"].contains tag.name then return .done
    else inBody t
  | _ => inBody t

def inColumnGroup (t : Token) : Edit Outcome := do
  let leave : Edit Outcome := do
    if (← get).currentIs (·.is "colgroup") then
      pop
      return .again .inTable t
    else return .done
  match t with
  | .blank s => insertText s; return .done
  | .comment s => insertComment s; return .done
  | .startTag tag =>
    if tag.name == "html" then mergeRoot tag
    else if tag.name == "col" then
      let _ ← insertClosedTag tag
      return .done
    else if tag.name == "template" then headStart tag
    else leave
  | .endTag tag =>
    if tag.name == "colgroup" then
      if (← get).currentIs (·.is "colgroup") then
        pop
        setMode .inTable
      return .done
    else if tag.name == "col" then return .done
    else if tag.name == "template" then endTemplate
    else leave
  | .eof => endOfBody
  | _ => leave

def inTableBody (t : Token) : Edit Outcome := do
  let clear : Edit Unit := popTo tableBodyContext
  let leave : Edit Outcome := do
    let s ← get
    if s.inScopeWhere tableScope (s.elementIs (·.isIn ["table", "tbody", "tfoot"])) then
      clear
      pop
      return .again .inTable t
    else return .done
  match t with
  | .startTag tag =>
    if tag.name == "tr" then
      clear
      let _ ← insertTag tag
      setMode .inRow
      return .done
    else if ["th", "td"].contains tag.name then
      clear
      insertImplied "tr"
      return .again .inRow t
    else if ["caption", "col", "colgroup", "tbody", "tfoot", "thead"].contains tag.name then leave
    else inTable t
  | .endTag tag =>
    if ["tbody", "tfoot", "thead"].contains tag.name then
      if (← get).inScope tableScope tag.name then
        clear
        pop
        setMode .inTable
      return .done
    else if tag.name == "table" then leave
    else if ["body", "caption", "col", "colgroup", "html", "td", "th", "tr"].contains tag.name then
      return .done
    else inTable t
  | _ => inTable t

def inRow (t : Token) : Edit Outcome := do
  let clear : Edit Unit := popTo tableRowContext
  let leave (after : Outcome) : Edit Outcome := do
    if (← get).inScope tableScope "tr" then
      clear
      pop
      match after with
      | .done => setMode .inTableBody
      | _ => pure ()
      return after
    else return .done
  match t with
  | .startTag tag =>
    if ["th", "td"].contains tag.name then
      clear
      let _ ← insertTag tag
      setMode .inCell
      pushMarker
      return .done
    else if ["caption", "col", "colgroup", "tbody", "tfoot", "thead", "tr"].contains tag.name then
      leave (.again .inTableBody t)
    else inTable t
  | .endTag tag =>
    if tag.name == "tr" then leave .done
    else if tag.name == "table" then leave (.again .inTableBody t)
    else if ["tbody", "tfoot", "thead"].contains tag.name then
      if (← get).inScope tableScope tag.name then leave (.again .inTableBody t) else return .done
    else if ["body", "caption", "col", "colgroup", "html", "td", "th"].contains tag.name then
      return .done
    else inTable t
  | _ => inTable t

def inCell (t : Token) : Edit Outcome := do
  let closeCell : Edit Outcome := do
    closeImplied
    popThrough (·.isIn ["td", "th"])
    clearToMarker
    return .again .inRow t
  match t with
  | .startTag tag =>
    if ["caption", "col", "colgroup", "tbody", "td", "tfoot", "th", "thead", "tr"].contains
        tag.name then
      let s ← get
      if s.inScopeWhere tableScope (s.elementIs (·.isIn ["td", "th"])) then closeCell
      else return .done
    else inBody t
  | .endTag tag =>
    if ["td", "th"].contains tag.name then
      if (← get).inScope tableScope tag.name then
        closeImplied
        popThroughNamed tag.name
        clearToMarker
        setMode .inRow
      return .done
    else if ["body", "caption", "col", "colgroup", "html"].contains tag.name then return .done
    else if ["table", "tbody", "tfoot", "thead", "tr"].contains tag.name then
      if (← get).inScope tableScope tag.name then closeCell else return .done
    else inBody t
  | _ => inBody t

/-! ## Selections -/

def inSelect (t : Token) : Edit Outcome := do
  let popIf (name : String) : Edit Unit := do
    if (← get).currentIs (·.is name) then pop
  match t with
  | .blank s | .text s => insertText s; return .done
  | .comment s => insertComment s; return .done
  | .startTag tag =>
    let name := tag.name
    if name == "html" then mergeRoot tag
    else if name == "option" then
      popIf "option"
      let _ ← insertTag tag
      return .done
    else if name == "optgroup" then
      popIf "option"
      popIf "optgroup"
      let _ ← insertTag tag
      return .done
    else if name == "select" then
      if (← get).inScope selectScope "select" then
        popThroughNamed "select"
        resetMode
      return .done
    else if ["input", "keygen", "textarea"].contains name then
      if (← get).inScope selectScope "select" then
        popThroughNamed "select"
        return .again (← get).resetMode t
      else return .done
    else if name == "script" || name == "template" then headStart tag
    else return .done
  | .endTag tag =>
    let name := tag.name
    if name == "optgroup" then
      let s ← get
      if s.currentIs (·.is "option") && (s.opened[1]?).any (s.elementIs (·.is "optgroup")) then
        pop
      popIf "optgroup"
      return .done
    else if name == "option" then
      popIf "option"
      return .done
    else if name == "select" then
      if (← get).inScope selectScope "select" then
        popThroughNamed "select"
        resetMode
      return .done
    else if name == "template" then endTemplate
    else return .done
  | .eof => endOfBody
  | _ => return .done

def inSelectInTable (t : Token) : Edit Outcome := do
  let parts := ["caption", "table", "tbody", "tfoot", "thead", "tr", "td", "th"]
  let leave : Edit Outcome := do
    popThroughNamed "select"
    return .again (← get).resetMode t
  match t with
  | .startTag tag => if parts.contains tag.name then leave else inSelect t
  | .endTag tag =>
    if parts.contains tag.name then
      if (← get).inScope tableScope tag.name then leave else return .done
    else inSelect t
  | _ => inSelect t

/-! ## Templates -/

def inTemplate (t : Token) : Edit Outcome := do
  let turn (m : Mode) : Edit Outcome := do
    modify fun s => { s with templateModes := m :: s.templateModes.drop 1 }
    return .again m t
  match t with
  | .startTag tag =>
    let name := tag.name
    if headTags.contains name then headStart tag
    else if ["caption", "colgroup", "tbody", "tfoot", "thead"].contains name then turn .inTable
    else if name == "col" then turn .inColumnGroup
    else if name == "tr" then turn .inTableBody
    else if name == "td" || name == "th" then turn .inRow
    else turn .inBody
  | .endTag tag => if tag.name == "template" then endTemplate else return .done
  | .eof => endOfTemplates
  | _ => inBody t

/-! ## Framesets and the end of the document -/

def inFrameset (t : Token) : Edit Outcome := do
  match t with
  | .blank s => insertText s; return .done
  | .comment s => insertComment s; return .done
  | .startTag tag =>
    if tag.name == "html" then mergeRoot tag
    else if tag.name == "frameset" then
      let _ ← insertTag tag
      return .done
    else if tag.name == "frame" then
      let _ ← insertClosedTag tag
      return .done
    else if tag.name == "noframes" then headStart tag
    else return .done
  | .endTag tag =>
    if tag.name == "frameset" && (← get).opened.length != 1 then
      pop
      if !(← get).currentIs (·.is "frameset") then setMode .afterFrameset
    return .done
  | _ => return .done

def afterFrameset (t : Token) : Edit Outcome := do
  match t with
  | .blank s => insertText s; return .done
  | .comment s => insertComment s; return .done
  | .startTag tag =>
    if tag.name == "html" then mergeRoot tag
    else if tag.name == "noframes" then headStart tag
    else return .done
  | .endTag tag =>
    if tag.name == "html" then setMode .afterAfterFrameset
    return .done
  | _ => return .done

def afterBody (t : Token) : Edit Outcome := do
  match t with
  | .blank _ => inBody t
  | .comment s => addComment (← get).root s; return .done
  | .startTag tag => if tag.name == "html" then mergeRoot tag else return .again .inBody t
  | .endTag tag =>
    if tag.name == "html" then
      setMode .afterAfterBody
      return .done
    else return .again .inBody t
  | .eof => return .done
  | _ => return .again .inBody t

def afterAfterBody (t : Token) : Edit Outcome := do
  match t with
  | .blank _ => inBody t
  | .comment s => addComment 0 s; return .done
  | .startTag tag => if tag.name == "html" then mergeRoot tag else return .again .inBody t
  | .eof => return .done
  | _ => return .again .inBody t

def afterAfterFrameset (t : Token) : Edit Outcome := do
  match t with
  | .blank _ => inBody t
  | .comment s => addComment 0 s; return .done
  | .startTag tag =>
    if tag.name == "html" then mergeRoot tag
    else if tag.name == "noframes" then headStart tag
    else return .done
  | _ => return .done

end SiteWalk.Html.Build

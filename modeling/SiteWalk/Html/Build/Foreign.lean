import SiteWalk.Html.Build.Insert
import SiteWalk.Text.Ascii

/-!
# Foreign elements

SVG and MathML inside HTML: the capitals of their names are restored, prefixes
of attribute names become namespaces, and a start tag that belongs to HTML
closes them.
-/

namespace SiteWalk.Html.Build

open Text

/-! ## Names -/

/-- The SVG element names with capitals. -/
def svgNames : List String :=
  ["altGlyph", "altGlyphDef", "altGlyphItem", "animateColor", "animateMotion", "animateTransform",
   "clipPath", "feBlend", "feColorMatrix", "feComponentTransfer", "feComposite",
   "feConvolveMatrix", "feDiffuseLighting", "feDisplacementMap", "feDistantLight",
   "feDropShadow", "feFlood", "feFuncA", "feFuncB", "feFuncG", "feFuncR", "feGaussianBlur",
   "feImage", "feMerge", "feMergeNode", "feMorphology", "feOffset", "fePointLight",
   "feSpecularLighting", "feSpotLight", "feTile", "feTurbulence", "foreignObject", "glyphRef",
   "linearGradient", "radialGradient", "textPath"]

/-- The SVG attribute names with capitals. -/
def svgAttrNames : List String :=
  ["attributeName", "attributeType", "baseFrequency", "baseProfile", "calcMode",
   "clipPathUnits", "diffuseConstant", "edgeMode", "filterUnits", "glyphRef",
   "gradientTransform", "gradientUnits", "kernelMatrix", "kernelUnitLength", "keyPoints",
   "keySplines", "keyTimes", "lengthAdjust", "limitingConeAngle", "markerHeight", "markerUnits",
   "markerWidth", "maskContentUnits", "maskUnits", "numOctaves", "pathLength",
   "patternContentUnits", "patternTransform", "patternUnits", "pointsAtX", "pointsAtY",
   "pointsAtZ", "preserveAlpha", "preserveAspectRatio", "primitiveUnits", "refX", "refY",
   "repeatCount", "repeatDur", "requiredExtensions", "requiredFeatures", "specularConstant",
   "specularExponent", "spreadMethod", "startOffset", "stdDeviation", "stitchTiles",
   "surfaceScale", "systemLanguage", "tableValues", "targetX", "targetY", "textLength", "viewBox",
   "viewTarget", "xChannelSelector", "yChannelSelector", "zoomAndPan"]

/-- The member of `names` that is `name` but for capitals. -/
def recase (names : List String) (name : String) : String :=
  (names.find? (lowerString · == name)).getD name

/-- An attribute of a foreign element, its prefix made a namespace. -/
def foreignAttr (vocabulary : Vocabulary) (a : String × String) : Attr :=
  let name := match vocabulary with
    | .svg => recase svgAttrNames a.1
    | .mathml => if a.1 == "definitionurl" then "definitionURL" else a.1
    | .html => a.1
  if ["xlink:actuate", "xlink:arcrole", "xlink:href", "xlink:role", "xlink:show", "xlink:title",
      "xlink:type"].contains name then ⟨.xlink, String.ofList (name.toList.drop 6), a.2⟩
  else if ["xml:base", "xml:lang", "xml:space"].contains name then
    ⟨.xml, String.ofList (name.toList.drop 4), a.2⟩
  else if name == "xmlns" then ⟨.xmlns, "xmlns", a.2⟩
  else if name == "xmlns:xlink" then ⟨.xmlns, "xlink", a.2⟩
  else ⟨.none, name, a.2⟩

/-! ## Rules -/

/-- An `svg` or `math` element. -/
def enterForeign (vocabulary : Vocabulary) (t : Tag) : Edit Outcome := do
  let attrs := t.attrs.map (foreignAttr vocabulary)
  if t.selfClosing then let _ ← insertClosed vocabulary t.name attrs
  else let _ ← insertOpened vocabulary t.name attrs
  return .done

/-- A start tag among foreign elements. -/
def foreignStart (t : Tag) : Edit Outcome := do
  let s ← get
  let vocabulary := match s.current?.bind s.element? with
    | some e => e.vocabulary
    | none => .html
  let name := if vocabulary == .svg then recase svgNames t.name else t.name
  enterForeign vocabulary { t with name }

/-- The start tags that close foreign elements. -/
def breakout : List String :=
  ["b", "big", "blockquote", "body", "br", "center", "code", "dd", "div", "dl", "dt", "em",
   "embed", "h1", "h2", "h3", "h4", "h5", "h6", "head", "hr", "i", "img", "li", "listing", "menu",
   "meta", "nobr", "ol", "p", "pre", "ruby", "s", "small", "span", "strong", "strike", "sub",
   "sup", "table", "tt", "u", "ul", "var"]

/-- Closes foreign elements up to one that may hold HTML. -/
def breakOut (t : Tag) : Edit Outcome := do
  pop
  popWhile fun e => !(e.vocabulary == .html || isMathText e || isSvgHost e)
  return .retry (.startTag t)

/-- What an end tag among foreign elements closes. -/
inductive ForeignEnd where
  | nothing
  /-- The element that leaves these open. -/
  | upTo (rest : List Nat)
  /-- The rules of HTML decide. -/
  | html

def State.foreignEnd (s : State) (name : String) : ForeignEnd :=
  go true s.opened
where
  go (first : Bool) : List Nat → ForeignEnd
    | [] => .nothing
    | [_] => .nothing
    | n :: r =>
      if !first && s.elementIs (·.vocabulary == .html) n then .html
      else if s.elementIs (fun e => lowerString e.name == name) n then .upTo r
      else go false r

/-- Whether a token is placed by the rules for foreign elements. -/
def State.isForeign (s : State) (t : Token) : Bool :=
  match s.current?.bind s.element? with
  | none => false
  | some e =>
    let isText := match t with
      | .blank _ | .text _ | .null => true
      | _ => false
    let startName : Option String := match t with
      | .startTag tag => some tag.name
      | _ => none
    if t == .eof || e.vocabulary == .html then false
    else if isMathText e && (isText || startName.any fun n => n != "mglyph" && n != "malignmark")
    then false
    else if isSvgHost e && (isText || startName.isSome) then false
    else if e.vocabulary == .mathml && e.name == "annotation-xml" && startName == some "svg" then
      false
    else true

end SiteWalk.Html.Build

import SiteWalk.Html.Reference
import SiteWalk.Html.Token
import SiteWalk.Text.LineEnd

/-!
# Lexing markup

`next` takes the tokens off the front of a text that is not empty; how it reads
depends on the tag that came last, so the tree decides the mode for each call.

    (next mode foreign (c :: r)).2 is shorter than c :: r              (next_length)

Line ends are line feeds here: `normalize` has replaced the others.
-/

namespace SiteWalk.Html

open Text

/-! ## Characters -/

def isSpace (c : Char) : Bool :=
  c == ' ' || c == '\t' || c == '\n' || c == '\x0c' || c == '\r'

/-- U+0000 is read as the replacement character inside tags and raw text. -/
def visible (c : Char) : Char := if c == '\x00' then replacement else c

/-- The text to be lexed: without its byte order mark and with line feeds alone. -/
def normalize (s : List Char) : List Char := unifyLineEnds (dropMark s)

/-- What a character of text counts as. -/
inductive Kind where
  | blank | text | null
  deriving DecidableEq

def kindOf (c : Char) : Kind :=
  if c == '\x00' then .null else if isSpace c then .blank else .text

/-- Maximal runs of one kind; each U+0000 is a run of its own. -/
def runsOf : List Char → List (Kind × List Char)
  | [] => []
  | c :: r =>
    match runsOf r with
    | (k, cs) :: rest =>
      if k = kindOf c ∧ k ≠ .null then (k, c :: cs) :: rest
      else (kindOf c, [c]) :: (k, cs) :: rest
    | [] => [(kindOf c, [c])]

/-- The runs of blanks, of other characters and of U+0000. -/
def runs (s : List Char) : List Token :=
  (runsOf s).map fun run =>
    match run.1 with
    | .null => .null
    | .blank => .blank (String.ofList run.2)
    | .text => .text (String.ofList run.2)

/-! ## Tags -/

/-- Where in a tag the lexer is; collected characters come last first. -/
inductive TagState where
  | name (body : List Char)
  | gap
  | attrName (body : List Char)
  | afterAttrName (name : List Char)
  | beforeValue (name : List Char)
  | quoted (quote : Char) (name body : List Char)
  | bare (name body : List Char)
  | afterQuoted
  | slash

/-- The parts of a tag read so far, attributes last first. -/
structure OpenTag where
  name : String := ""
  attrs : List (String × String) := []

namespace OpenTag

/-- Adds an attribute; of two with one name the first counts. -/
def add (t : OpenTag) (name value : List Char) : OpenTag :=
  let key := String.ofList name.reverse
  if t.attrs.any (·.1 == key) then t
  else
    { t with attrs := (key, String.ofList (decodeReferences true value.reverse)) :: t.attrs }

def close (t : OpenTag) (selfClosing : Bool) : Tag := ⟨t.name, t.attrs.reverse, selfClosing⟩

end OpenTag

/-- What one character of a tag leads to. -/
inductive TagStep where
  | go (t : OpenTag) (s : TagState)
  | done (t : Tag)

/-- A character where an attribute may begin. -/
def beginAttr (t : OpenTag) (c : Char) : TagStep :=
  if isSpace c then .go t .gap
  else if c == '/' then .go t .slash
  else if c == '>' then .done (t.close false)
  else .go t (.attrName [lowerChar (visible c)])

def tagStep (t : OpenTag) (c : Char) : TagState → TagStep
  | .name body =>
    let named : OpenTag := { t with name := String.ofList body.reverse }
    if isSpace c then .go named .gap
    else if c == '/' then .go named .slash
    else if c == '>' then .done (named.close false)
    else .go t (.name (lowerChar (visible c) :: body))
  | .gap => beginAttr t c
  | .attrName body =>
    if isSpace c then .go t (.afterAttrName body)
    else if c == '/' then .go (t.add body []) .slash
    else if c == '>' then .done ((t.add body []).close false)
    else if c == '=' then .go t (.beforeValue body)
    else .go t (.attrName (lowerChar (visible c) :: body))
  | .afterAttrName name =>
    if isSpace c then .go t (.afterAttrName name)
    else if c == '=' then .go t (.beforeValue name)
    else beginAttr (t.add name []) c
  | .beforeValue name =>
    if isSpace c then .go t (.beforeValue name)
    else if c == '"' || c == '\'' then .go t (.quoted c name [])
    else if c == '>' then .done ((t.add name []).close false)
    else .go t (.bare name [visible c])
  | .quoted quote name body =>
    if c == quote then .go (t.add name body) .afterQuoted
    else .go t (.quoted quote name (visible c :: body))
  | .bare name body =>
    if isSpace c then .go (t.add name body) .gap
    else if c == '>' then .done ((t.add name body).close false)
    else .go t (.bare name (visible c :: body))
  | .afterQuoted => beginAttr t c
  | .slash => if c == '>' then .done (t.close true) else beginAttr t c

/-- The tag whose name starts here, and the text after it; none if the text ends
inside the tag. -/
def lexTag (t : OpenTag) (state : TagState) : List Char → Option (Tag × List Char)
  | [] => none
  | c :: r =>
    match tagStep t c state with
    | .done tag => some (tag, r)
    | .go t' state' => lexTag t' state' r

/-! ## Comments and declarations -/

/-- The rest of a comment and the text after it. -/
def lexComment : List Char → List Char × List Char
  | [] => ([], [])
  | '-' :: '-' :: '>' :: r => ([], r)
  | '-' :: '-' :: '!' :: '>' :: r => ([], r)
  | ['-'] => ([], [])
  | ['-', '-'] => ([], [])
  | ['-', '-', '!'] => ([], [])
  | c :: r =>
    let (body, rest) := lexComment r
    (visible c :: body, rest)

/-- A comment, from behind its opening dashes. -/
def comment (s : List Char) : List Char × List Char :=
  match s with
  | '>' :: r => ([], r)
  | '-' :: '>' :: r => ([], r)
  | _ => lexComment s

/-- The text up to the next `>`, which is dropped, and the text after it. -/
def uptoClose (s : List Char) : List Char × List Char :=
  (s.takeWhile (· != '>'), (s.dropWhile (· != '>')).drop 1)

def skipSpace (s : List Char) : List Char := s.dropWhile isSpace

/-- A quoted identifier: its text, and what follows if the quote is closed. -/
def identifier? (s : List Char) : Option (List Char × Option (List Char)) :=
  match s with
  | q :: r =>
    if q == '"' || q == '\'' then
      let body := r.takeWhile (· != q)
      match r.dropWhile (· != q) with
      | [] => some (body, none)
      | _ :: rest => some (body, some rest)
    else none
  | [] => none

/-- The text between `<!DOCTYPE` and `>`; `closed` tells whether the `>` was there. -/
def doctypeOf (closed : Bool) (s : List Char) : Doctype :=
  let text (cs : List Char) : String := String.ofList (cs.map visible)
  let s := skipSpace s
  let name := (s.takeWhile (!isSpace ·))
  if name.isEmpty then ⟨none, none, none, true⟩
  else
    let nameText := String.ofList (lower (name.map visible))
    let rest := skipSpace (s.dropWhile (!isSpace ·))
    let systemOf (publicId : Option String) (required : Bool) (s : List Char) : Doctype :=
      match identifier? (skipSpace s) with
      | some (body, some _) => ⟨some nameText, publicId, some (text body), !closed⟩
      | some (body, none) => ⟨some nameText, publicId, some (text body), true⟩
      | none =>
        ⟨some nameText, publicId, none, !closed || required || !(skipSpace s).isEmpty⟩
    if rest.isEmpty then ⟨some nameText, none, none, !closed⟩
    else if startsWithLower "public".toList rest then
      match identifier? (skipSpace (rest.drop 6)) with
      | some (body, some after) => systemOf (some (text body)) false after
      | some (body, none) => ⟨some nameText, some (text body), none, true⟩
      | none => ⟨some nameText, none, none, true⟩
    else if startsWithLower "system".toList rest then systemOf none true (rest.drop 6)
    else ⟨some nameText, none, none, true⟩

/-- What starts with `<!`; a section of character data only in foreign content. -/
def declaration (foreign : Bool) (s : List Char) : List Token × List Char :=
  match s with
  | '-' :: '-' :: r =>
    let (body, rest) := comment r
    ([.comment (String.ofList body)], rest)
  | _ =>
    if startsWithLower "doctype".toList s then
      let body := s.drop 7
      let (inner, rest) := uptoClose body
      ([.doctype (doctypeOf (inner.length < body.length) inner)], rest)
    else if foreign && "[CDATA[".toList.isPrefixOf s then
      let (body, rest) := characterData (s.drop 7)
      (runs body, rest)
    else
      let (body, rest) := uptoClose s
      ([.comment (String.ofList (body.map visible))], rest)
where
  /-- The text up to `]]>`. -/
  characterData : List Char → List Char × List Char
    | [] => ([], [])
    | ']' :: ']' :: '>' :: r => ([], r)
    | c :: r =>
      let (body, rest) := characterData r
      (c :: body, rest)

/-! ## Raw text -/

/-- The end tag of this name starts here, behind its `</`. -/
def isEndTag (tag : List Char) (s : List Char) : Bool :=
  startsWithLower tag (s.take tag.length) &&
    match s.drop tag.length with
    | c :: _ => isSpace c || c == '/' || c == '>'
    | [] => false

/-- Scripts may hold a comment, and in it a script of their own; `dashes` counts
the dashes just read. -/
inductive ScriptState where
  | plain
  | comment (dashes : Nat)
  | nested (dashes : Nat)

/-- The letters that follow and the character after them, if it ends a name. -/
def nameEnds (s : List Char) : Bool :=
  startsWithLower "script".toList (s.take 6) &&
    match s.drop 6 with
    | c :: _ => isSpace c || c == '/' || c == '>'
    | [] => false

def keep (c : Char) (p : List Char × List Char) : List Char × List Char := (visible c :: p.1, p.2)

/-- The text of a script, and the text from its end tag on.  `skip` characters
are taken as they are. -/
def scriptText (state : ScriptState) (skip : Nat) : List Char → List Char × List Char
  | [] => ([], [])
  | c :: r =>
    if skip > 0 then keep c (scriptText state (skip - 1) r)
    else
      match state with
      | .plain =>
        if c == '<' && isEndTagOf r then ([], c :: r)
        else if c == '<' && "!--".toList.isPrefixOf r then keep c (scriptText (.comment 2) 3 r)
        else keep c (scriptText .plain 0 r)
      | .comment d =>
        if c == '-' then keep c (scriptText (.comment (d + 1)) 0 r)
        else if c == '>' && d ≥ 2 then keep c (scriptText .plain 0 r)
        else if c == '<' then
          if isEndTagOf r then ([], c :: r)
          else if nameEnds r then keep c (scriptText (.nested 0) 7 r)
          else keep c (scriptText (.comment 0) 0 r)
        else keep c (scriptText (.comment 0) 0 r)
      | .nested d =>
        if c == '-' then keep c (scriptText (.nested (d + 1)) 0 r)
        else if c == '>' && d ≥ 2 then keep c (scriptText .plain 0 r)
        else if c == '<' && r.head? == some '/' && nameEnds (r.drop 1) then
          keep c (scriptText (.comment 0) 8 r)
        else keep c (scriptText (.nested 0) 0 r)
where
  isEndTagOf (s : List Char) : Bool := s.head? == some '/' && isEndTag "script".toList (s.drop 1)

/-! ## The lexer -/

/-- An end tag or a start tag, from its name on; nothing if the text ends in it. -/
def tagTokens (make : Tag → Token) (s : List Char) : List Token × List Char :=
  match lexTag {} (.name []) s with
  | some (t, rest) => ([make t], rest)
  | none => ([], [])

/-- What starts with `<` in markup, from behind it. -/
def afterOpen (foreign : Bool) (s : List Char) : List Token × List Char :=
  match s with
  | '!' :: r => declaration foreign r
  | '/' :: r =>
    match r with
    | [] => ([.text "</"], [])
    | c :: r' =>
      if isLetter c then tagTokens .endTag r
      else if c == '>' then ([], r')
      else
        let (body, rest) := uptoClose r
        ([.comment (String.ofList (body.map visible))], rest)
  | c :: _ =>
    if isLetter c then tagTokens .startTag s
    else if c == '?' then
      let (body, rest) := uptoClose s
      ([.comment (String.ofList (body.map visible))], rest)
    else ([.text "<"], s)
  | [] => ([.text "<"], [])

/-- Text up to an end tag: one `<` that opens none, or the text up to the next. -/
def untilEndTag (tag : String) (references : Bool) (c : Char) (r : List Char) :
    List Token × List Char :=
  if c == '<' then
    if r.head? == some '/' && isEndTag tag.toList (r.drop 1) then tagTokens .endTag (r.drop 1)
    else ([.text "<"], r)
  else
    let body := c :: r.takeWhile (· != '<')
    let body := body.map visible
    (runs (if references then decodeReferences false body else body), r.dropWhile (· != '<'))

/-- The tokens at the front of a text, and the text after them. -/
def next (mode : TextMode) (foreign : Bool) (c : Char) (r : List Char) :
    List Token × List Char :=
  match mode with
  | .markup =>
    if c == '<' then afterOpen foreign r
    else if c == '\x00' then ([.null], r)
    else
      let inside (d : Char) : Bool := d != '<' && d != '\x00'
      (runs (decodeReferences false (c :: r.takeWhile inside)), r.dropWhile inside)
  | .escapable tag => untilEndTag tag true c r
  | .raw tag => untilEndTag tag false c r
  | .script =>
    match scriptText .plain 0 (c :: r) with
    | ([], rest) => tagTokens .endTag (rest.drop 2)
    | (body, rest) => (runs body, rest)
  | .plain => (runs ((c :: r).map visible), [])

/-! ## Lemmas -/

theorem lexTag_length {t : OpenTag} {state : TagState} {s : List Char} {tag : Tag}
    {r : List Char} (h : lexTag t state s = some (tag, r)) : r.length < s.length := by
  induction s generalizing t state with
  | nil => simp [lexTag] at h
  | cons c s ih =>
    rw [lexTag] at h
    split at h
    · simp only [Option.some.injEq, Prod.mk.injEq] at h
      simp [h.2]
    · have := ih h
      simp; omega

theorem tagTokens_length (make : Tag → Token) (s : List Char) :
    (tagTokens make s).2.length ≤ s.length := by
  unfold tagTokens
  split
  · rename_i h
    exact Nat.le_of_lt (lexTag_length h)
  · simp

theorem lexComment_length (s : List Char) : (lexComment s).2.length ≤ s.length := by
  fun_induction lexComment s <;> simp_all <;> omega

theorem comment_length (s : List Char) : (comment s).2.length ≤ s.length := by
  unfold comment
  split
  · simp
  · simp; omega
  · exact lexComment_length _

theorem uptoClose_length (s : List Char) : (uptoClose s).2.length ≤ s.length := by
  have := length_dropWhile_le (· != '>') s
  simp [uptoClose]; omega

theorem characterData_length (s : List Char) :
    (declaration.characterData s).2.length ≤ s.length := by
  fun_induction declaration.characterData s <;> simp_all <;> omega

theorem declaration_length (foreign : Bool) (s : List Char) :
    (declaration foreign s).2.length ≤ s.length := by
  unfold declaration
  split
  · rename_i r
    have := comment_length r
    simp; omega
  · split
    · have := uptoClose_length (s.drop 7)
      simp at this ⊢; omega
    · split
      · have := characterData_length (s.drop 7)
        simp at this ⊢; omega
      · exact uptoClose_length s

theorem afterOpen_length (foreign : Bool) (s : List Char) :
    (afterOpen foreign s).2.length ≤ s.length := by
  unfold afterOpen
  split
  · have := declaration_length foreign ‹_›
    simp; omega
  · split
    · simp
    · split
      · exact Nat.le_succ_of_le (tagTokens_length _ _)
      · split
        · simp; omega
        · exact Nat.le_succ_of_le (uptoClose_length _)
  · split
    · exact tagTokens_length _ _
    · split
      · exact uptoClose_length _
      · simp
  · simp

theorem untilEndTag_length (tag : String) (references : Bool) (c : Char) (r : List Char) :
    (untilEndTag tag references c r).2.length ≤ r.length := by
  unfold untilEndTag
  split
  · split
    · have := tagTokens_length .endTag (r.drop 1)
      simp at this ⊢; omega
    · simp
  · exact length_dropWhile_le _ _

theorem scriptText_length (state : ScriptState) (skip : Nat) (s : List Char) :
    (scriptText state skip s).1.length + (scriptText state skip s).2.length ≤ s.length := by
  fun_induction scriptText state skip s <;> simp_all [keep] <;> omega

/-- Every call takes at least one character. -/
theorem next_length (mode : TextMode) (foreign : Bool) (c : Char) (r : List Char) :
    (next mode foreign c r).2.length < (c :: r).length := by
  unfold next
  split
  · split
    · have := afterOpen_length foreign r
      simp; omega
    · split
      · simp
      · have := length_dropWhile_le (fun d => d != '<' && d != '\x00') r
        simp; omega
  · have := untilEndTag_length ‹_› true c r
    simp; omega
  · have := untilEndTag_length ‹_› false c r
    simp; omega
  · have hs := scriptText_length .plain 0 (c :: r)
    split
    · rename_i rest h
      rw [h] at hs
      have := tagTokens_length .endTag (rest.drop 2)
      simp at this hs ⊢
      omega
    · rename_i body rest hne h
      rw [h] at hs
      have : body ≠ [] := by rintro rfl; simp_all
      have : 0 < body.length := List.length_pos_iff.2 this
      simp at hs ⊢; omega
  · simp

end SiteWalk.Html

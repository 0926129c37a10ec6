import SiteWalk.Text.Ascii
import SiteWalk.Text.Blank
import SiteWalk.Unicode.Property

/-!
# Values of href attributes

Links are looked for in the characters of a page and not in its tree, so broken
markup hides none: every word `href`, an equals sign and a value that is quoted
or stands bare.

    hrefs (front ++ "href=" ++ quoted v ++ rest) = hrefs front ++ v :: hrefs rest
-/

namespace SiteWalk.Link

open Text

/-! ## Scope -/

/-- The text between the end of the first `<body` tag and the last `</body` behind
it; the whole text if there is no such tag. -/
def bodyScope (page : List Char) : List Char :=
  match cutAtLower? "<body".toList page with
  | none => page
  | some (_, back) =>
    let inner := (back.dropWhile (· != '>')).drop 1
    (beforeLastLower? "</body".toList inner).getD inner

/-! ## Values -/

/-- The character ends a bare value. -/
def endsBare (c : Char) : Bool := isBlank c || "\"'<>`".toList.contains c

/-- A value up to the quote that closes it. -/
def quotedValue? (quote : Char) (s : List Char) : Option (List Char × List Char) :=
  match s.dropWhile (· != quote) with
  | _ :: rest => some (s.takeWhile (· != quote), rest)
  | [] => none

/-- The value that `s` starts with, and the text behind it. -/
def value? (s : List Char) : Option (List Char × List Char) :=
  match s with
  | '"' :: r => quotedValue? '"' r
  | '\'' :: r => quotedValue? '\'' r
  | _ =>
    let v := s.takeWhile (!endsBare ·)
    if v.isEmpty then none else some (v, s.dropWhile (!endsBare ·))

/-- The value of the attribute that `s` starts with, and the text behind it. -/
def href? (s : List Char) : Option (List Char × List Char) :=
  if startsWithLower "href".toList s then
    match trimLeft (s.drop 4) with
    | '=' :: r => value? (trimLeft r)
    | _ => none
  else none

/-! ## Scan -/

theorem quotedValue?_length {q : Char} {s v rest : List Char}
    (h : quotedValue? q s = some (v, rest)) : rest.length < s.length := by
  unfold quotedValue? at h
  split at h
  · next d r heq =>
    simp only [Option.some.injEq, Prod.mk.injEq] at h
    have := length_dropWhile_le (· != q) s
    rw [heq] at this
    simp only [List.length_cons] at this
    rw [← h.2]
    omega
  · cases h

theorem value?_length {s v rest : List Char} (h : value? s = some (v, rest)) :
    rest.length ≤ s.length := by
  unfold value? at h
  split at h
  · have := quotedValue?_length h
    simp only [List.length_cons]
    omega
  · have := quotedValue?_length h
    simp only [List.length_cons]
    omega
  · dsimp only at h
    split at h
    · cases h
    · simp only [Option.some.injEq, Prod.mk.injEq] at h
      rw [← h.2]
      exact length_dropWhile_le _ _

theorem href?_length {s v rest : List Char} (h : href? s = some (v, rest)) :
    rest.length < s.length := by
  unfold href? at h
  split at h
  · split at h
    · next r heq =>
      have h1 := value?_length h
      have h2 := length_dropWhile_le isBlank r
      have h3 := length_dropWhile_le isBlank (s.drop 4)
      unfold trimLeft at h1 heq
      rw [heq] at h3
      simp only [List.length_cons, List.length_drop] at h3
      omega
    · cases h
  · cases h

/-- The values of the attributes in `s`; `inWord` says whether a character of a word
stands right before it. -/
def scan (inWord : Bool) (s : List Char) : List (List Char) :=
  match s with
  | [] => []
  | c :: r =>
    if inWord then scan (Unicode.isWordChar c) r
    else
      match _h : href? (c :: r) with
      | some (v, rest) => v :: scan false rest
      | none => scan (Unicode.isWordChar c) r
termination_by s.length
decreasing_by
  · simp
  · exact href?_length _h
  · simp

/-- The values of all href attributes, in order. -/
def hrefs (page : List Char) : List (List Char) := scan false page

end SiteWalk.Link

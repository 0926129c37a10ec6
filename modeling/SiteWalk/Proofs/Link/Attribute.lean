import SiteWalk.Proofs.Link.Scope
import SiteWalk.Proofs.Text.Search

/-!
# Attributes in a page

An attribute is the word `href`, an equals sign and a value, which is quoted or stands bare; the
word may be written in any case, and blanks may stand around the sign.  A page is a text with
attributes in it, and each of them gives its value, whatever the value holds.

    Shows page vs → hrefs page = vs                                        (hrefs_of_shows)
-/

namespace SiteWalk.Link

open Text

/-! ## Writing -/

/-- How a value is told from what follows it. -/
inductive Quoting where
  | double
  | single
  | bare

namespace Quoting

/-- A value as it is written. -/
def enclose : Quoting → List Char → List Char
  | double, v => '"' :: (v ++ ['"'])
  | single, v => '\'' :: (v ++ ['\''])
  | bare, v => v

/-- The values that can be written so. -/
def Allows : Quoting → List Char → Prop
  | double, v => '"' ∉ v
  | single, v => '\'' ∉ v
  | bare, v => v ≠ [] ∧ ∀ c ∈ v, endsBare c = false

/-- What may follow: a bare value goes on up to the first character that ends it. -/
def Closes : Quoting → List Char → Prop
  | bare, s => ∀ c ∈ s.head?, endsBare c = true
  | _, _ => True

instance : (q : Quoting) → (v : List Char) → Decidable (q.Allows v)
  | double, v => inferInstanceAs (Decidable ('"' ∉ v))
  | single, v => inferInstanceAs (Decidable ('\'' ∉ v))
  | bare, v => decidable_of_iff (v ≠ [] ∧ v.all (!endsBare ·) = true) (by simp [Allows])

instance : (q : Quoting) → (s : List Char) → Decidable (q.Closes s)
  | double, _ => inferInstanceAs (Decidable True)
  | single, _ => inferInstanceAs (Decidable True)
  | bare, s => decidable_of_iff (s.head?.all endsBare = true) (Option.all_eq_true _ _)

end Quoting

/-- An attribute as it stands in a page. -/
structure Attribute where
  name : List Char
  before : List Char
  after : List Char
  quoting : Quoting
  value : List Char
  named : Reads "href" name
  blank_before : ∀ c ∈ before, isBlank c = true
  blank_after : ∀ c ∈ after, isBlank c = true
  allowed : quoting.Allows value

def Attribute.text (a : Attribute) : List Char :=
  a.name ++ (a.before ++ '=' :: (a.after ++ a.quoting.enclose a.value))

/-- No character of a word stands at the end. -/
def Apart (gap : List Char) : Prop := ∀ c ∈ gap.getLast?, Unicode.isWordChar c = false

instance (gap : List Char) : Decidable (Apart gap) :=
  decidable_of_iff (gap.getLast?.all (!Unicode.isWordChar ·) = true) (by simp [Apart, Option.all_eq_true])

/-- The attributes of a page have these values, in this order. -/
inductive Shows : List Char → List (List Char) → Prop
  /-- A text without attributes. -/
  | plain {gap : List Char} (plain : Lacks "href" gap) : Shows gap []
  /-- An attribute behind such a text, and the rest of the page. -/
  | value {gap page : List Char} {vs : List (List Char)} (a : Attribute)
      (plain : Lacks "href" gap) (apart : Apart gap) (closes : a.quoting.Closes page)
      (rest : Shows page vs) : Shows (gap ++ (a.text ++ page)) (a.value :: vs)

/-! ## Reading a value -/

variable {s v : List Char}

theorem quotedValue?_enclosed {q : Char} (clean : q ∉ v) (s : List Char) :
    quotedValue? q (v ++ q :: s) = some (v, s) := by
  have cut := cutBefore_char clean s
  have taken : (v ++ q :: s).takeWhile (· != q) = v := congrArg Prod.fst cut
  have left : (v ++ q :: s).dropWhile (· != q) = q :: s := congrArg Prod.snd cut
  unfold quotedValue?
  rw [left, taken]

theorem value?_of_bare (some_ : v ≠ []) (inside : ∀ c ∈ v, endsBare c = false)
    (closes : Quoting.bare.Closes s) : value? (v ++ s) = some (v, s) := by
  have cut : cutBefore endsBare (v ++ s) = (v, s) := cutBefore_append inside closes
  have taken : (v ++ s).takeWhile (!endsBare ·) = v := congrArg Prod.fst cut
  have left : (v ++ s).dropWhile (!endsBare ·) = s := congrArg Prod.snd cut
  cases v with
  | nil => exact absurd rfl some_
  | cons c v =>
    have first : endsBare c = false := inside c List.mem_cons_self
    unfold value?
    split
    · next same =>
      rw [(List.cons.inj same).1] at first
      cases first
    · next same =>
      rw [(List.cons.inj same).1] at first
      cases first
    · rw [taken, left]
      rfl

theorem value?_enclose {q : Quoting} (allowed : q.Allows v) (closes : q.Closes s) :
    value? (q.enclose v ++ s) = some (v, s) := by
  cases q with
  | double =>
    rw [Quoting.enclose, List.cons_append, List.append_assoc]
    exact quotedValue?_enclosed allowed s
  | single =>
    rw [Quoting.enclose, List.cons_append, List.append_assoc]
    exact quotedValue?_enclosed allowed s
  | bare => exact value?_of_bare allowed.1 allowed.2 closes

/-! ## Reading an attribute -/

theorem trimLeft_blanks {b : List Char} (blanks : ∀ c ∈ b, isBlank c = true)
    (inked : ∀ c, s.head? = some c → isBlank c = false) : trimLeft (b ++ s) = s := by
  unfold trimLeft
  rw [List.dropWhile_append_of_pos blanks]
  cases s with
  | nil => rfl
  | cons c s => rw [List.dropWhile_cons, if_neg (by rw [inked c rfl]; exact Bool.noConfusion)]

/-- A value does not begin with a blank. -/
theorem inked_enclose {q : Quoting} (allowed : q.Allows v) :
    ∀ c, (q.enclose v ++ s).head? = some c → isBlank c = false := by
  intro c hc
  cases q with
  | double | single =>
    cases hc
    decide
  | bare =>
    obtain ⟨some_, inside⟩ := allowed
    cases v with
    | nil => exact absurd rfl some_
    | cons d v =>
      cases hc
      exact (Bool.or_eq_false_iff.1 (inside _ List.mem_cons_self)).1

theorem href?_text (a : Attribute) (closes : a.quoting.Closes s) :
    href? (a.text ++ s) = some (a.value, s) := by
  have length : a.name.length = 4 := by
    have := congrArg List.length a.named
    rwa [length_lower] at this
  have text : a.text ++ s =
      a.name ++ (a.before ++ '=' :: (a.after ++ (a.quoting.enclose a.value ++ s))) := by
    simp [Attribute.text]
  have word : startsWithLower "href".toList (a.text ++ s) = true := by
    rw [startsWithLower_iff, text, lower_append, a.named]
    exact List.prefix_append _ _
  have behind : (a.text ++ s).drop 4 =
      a.before ++ '=' :: (a.after ++ (a.quoting.enclose a.value ++ s)) := by
    rw [text, ← length, List.drop_left]
  have sign : ∀ c, ('=' :: (a.after ++ (a.quoting.enclose a.value ++ s))).head? = some c →
      isBlank c = false := by
    rintro c ⟨⟩
    decide
  unfold href?
  rw [if_pos word, behind, trimLeft_blanks a.blank_before sign]
  show value? (trimLeft (a.after ++ (a.quoting.enclose a.value ++ s))) = some (a.value, s)
  rw [trimLeft_blanks a.blank_after (inked_enclose a.allowed), value?_enclose a.allowed closes]

/-! ## Scanning a page -/

theorem scan_plain {gap : List Char} (plain : Lacks "href" gap) (inWord : Bool) :
    scan inWord gap = [] := by
  induction gap generalizing inWord with
  | nil =>
    unfold scan
    rfl
  | cons c gap ih =>
    refine scan_eq_nil.2 ⟨fun _ => ?_, ih plain.of_cons _⟩
    have none : ¬ startsWithLower "href".toList (c :: gap ++ []) = true :=
      not_startsWithLower (x := 'h') (q := "ref".toList) (by decide) (List.cons_ne_nil c gap) plain
        (by rintro d ⟨⟩)
    rw [List.append_nil] at none
    exact if_neg none

/-- An attribute is come to where the word before it, if any, has ended. -/
theorem scan_gap {gap : List Char} {inWord : Bool} (plain : Lacks "href" gap)
    (apart : Apart gap) (out : gap = [] → inWord = false) (a : Attribute) (s : List Char) :
    scan inWord (gap ++ (a.text ++ s)) = scan false (a.text ++ s) := by
  induction gap generalizing inWord with
  | nil => rw [out rfl, List.nil_append]
  | cons c gap ih =>
    have alike : ∀ d, (lower (a.text ++ s)).head? = some d → d = 'h' := by
      rw [Attribute.text, List.append_assoc, lower_append, a.named]
      rintro d ⟨⟩
      rfl
    have later := not_startsWithLower (x := 'h') (q := "ref".toList) (by decide)
      (List.cons_ne_nil c gap) plain alike
    have none : href? (c :: (gap ++ (a.text ++ s))) = none := if_neg later
    have apart' : Apart gap := by
      intro d hd
      apply apart
      rw [List.getLast?_cons, hd]
      rfl
    have out' : gap = [] → Unicode.isWordChar c = false := by
      rintro rfl
      exact apart c rfl
    rw [List.cons_append, scan_cons, none, ← ih plain.of_cons apart' out']
    cases inWord <;> rfl

/-- **Every attribute of a page gives its value.**  A page is read as it is written: the values
of its attributes come out whole and in order, also where a value holds what looks like an
attribute or like the end of a tag. -/
theorem hrefs_of_shows {page : List Char} {vs : List (List Char)} (h : Shows page vs) :
    hrefs page = vs := by
  unfold hrefs
  induction h with
  | plain plain => exact scan_plain plain false
  | @value gap page vs a plain apart closes rest ih =>
    have read := href?_text a closes
    rw [scan_gap plain apart (fun _ => rfl)]
    cases hs : a.text ++ page with
    | nil =>
      rw [hs] at read
      cases read
    | cons c r =>
      rw [hs] at read
      rw [scan_cons, if_neg Bool.false_ne_true, read, ← ih]

/-- An attribute whose value looks like another one. -/
def nested : Attribute where
  name := "href".toList
  before := []
  after := []
  quoting := .double
  value := "x href='y'>".toList
  named := by decide
  blank_before := List.all_eq_true.1 rfl
  blank_after := List.all_eq_true.1 rfl
  allowed := by decide +kernel

/-- An attribute in capital letters with blanks around the sign. -/
def spaced : Attribute where
  name := "HREF".toList
  before := "\n".toList
  after := " ".toList
  quoting := .single
  value := "\"".toList
  named := by decide
  blank_before := List.all_eq_true.1 rfl
  blank_after := List.all_eq_true.1 rfl
  allowed := by decide +kernel

/-- An attribute without quotes. -/
def unquoted : Attribute where
  name := "hReF".toList
  before := []
  after := []
  quoting := .bare
  value := "é=".toList
  named := by decide
  blank_before := List.all_eq_true.1 rfl
  blank_after := List.all_eq_true.1 rfl
  allowed := by decide +kernel

theorem hrefs_of_shows_mixed :
    hrefs "<a href=\"x href='y'>\">hre <A HREF\n= '\"'xhre hReF=é=>ref".toList =
      ["x href='y'>".toList, "\"".toList, "é=".toList] := by
  have page : "<a href=\"x href='y'>\">hre <A HREF\n= '\"'xhre hReF=é=>ref".toList =
      "<a ".toList ++ (nested.text ++ (">hre <A ".toList ++ (spaced.text ++
        ("xhre ".toList ++ (unquoted.text ++ ">ref".toList))))) := by decide +kernel
  rw [page]
  apply hrefs_of_shows
  refine .value nested (by decide +kernel) (by decide +kernel) trivial ?_
  refine .value spaced (by decide +kernel) (by decide +kernel) trivial ?_
  refine .value unquoted (by decide +kernel) (by decide +kernel) (by decide +kernel) ?_
  exact .plain (by decide +kernel)

end SiteWalk.Link

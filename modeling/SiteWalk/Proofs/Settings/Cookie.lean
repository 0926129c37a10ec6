import SiteWalk.Profile
import SiteWalk.Proofs.Text.Pieces
import SiteWalk.Proofs.Text.Search

/-!
# Cookies

All cookies of a request are written into the value of one header.  No character that a checked
name or value holds can be taken for one that stands between them, so a header is read back as
the cookies that were written into it.

    p.cookieHeader? = some header → cookies header = p.settings.request.cookies.entries
                                                                        (cookies_of_header)
-/

namespace SiteWalk

open Text

theorem TextMap.eq_of_entries {m n : TextMap} (same : m.entries = n.entries) : m = n := by
  cases m
  cases n
  cases same
  rfl

namespace Settings

/-! ## Cookies that are let through -/

variable {e : String × String}

theorem cookieFault?_eq_none_iff : cookieFault? e = none ↔
    e.1.toList ≠ [] ∧ (∀ c ∈ e.1.toList, isCookieNameChar c = true) ∧
      ∀ c ∈ e.2.toList, isCookieChar c = true := by
  unfold cookieFault?
  split
  · next none => simp [List.isEmpty_iff.1 none]
  · next some_ =>
    have some_ : e.1.toList ≠ [] := by simpa using some_
    split
    · next bad =>
      have bad : ¬ ∀ c ∈ e.1.toList, isCookieNameChar c = true := by simpa using bad
      simp [bad]
    · next good =>
      have good : ∀ c ∈ e.1.toList, isCookieNameChar c = true := by simpa using good
      rw [ite_eq_right_iff]
      simpa [some_] using fun _ => good

/-- Some settings with these cookies keep all rules. -/
def CookiesPass (m : TextMap) : Prop := ∃ s : Settings, s.request.cookies = m ∧ s.fault? = none

/-- The rules that the request of checked settings keeps. -/
theorem of_fault?_eq_none {s : Settings} (valid : s.fault? = none) :
    isBlankString s.request.userAgent = false ∧
      (∀ e ∈ s.request.headers.entries, headerFault? e = none) ∧
      ∀ e ∈ s.request.cookies.entries, cookieFault? e = none := by
  obtain ⟨-, request⟩ := Option.or_eq_none_iff.1 valid
  unfold Request.fault? at request
  split at request
  · cases request
  · next agent =>
    split at request
    · cases request
    · split at request
      · cases request
      · obtain ⟨headers, cookies⟩ := Option.or_eq_none_iff.1 request
        exact ⟨by simpa using agent, List.findSome?_eq_none_iff.1 headers,
          List.findSome?_eq_none_iff.1 cookies⟩

theorem cookiesPass_iff {m : TextMap} :
    CookiesPass m ↔ ∀ e ∈ m.entries, cookieFault? e = none := by
  constructor
  · rintro ⟨s, rfl, valid⟩
    exact (of_fault?_eq_none valid).2.2
  · intro each
    refine ⟨{ walk := { Walk.standard with excludedPages := "" }
              content := .standard
              request := { Request.standard with cookies := m } }, rfl, ?_⟩
    have cookies : m.entries.findSome? cookieFault? = none := List.findSome?_eq_none_iff.2 each
    have walk : { Walk.standard with excludedPages := "" }.fault? = none := by decide +kernel
    have agent : isBlankString Request.standard.userAgent = false := by decide +kernel
    unfold fault?
    rw [walk, Option.none_or, Request.fault?, agent]
    exact cookies

end Settings

namespace Profile

/-! ## Writing -/

/-- A cookie as it stands in the header. -/
def spell (e : String × String) : List Char := e.1.toList ++ '=' :: e.2.toList

theorem cookieHeader?_eq_none_iff {p : Profile} :
    p.cookieHeader? = none ↔ p.settings.request.cookies.entries = [] := by
  unfold cookieHeader?
  split
  · next none => simp [none]
  · next some_ => simpa using some_

theorem toList_of_cookieHeader? {p : Profile} {header : String}
    (h : p.cookieHeader? = some header) :
    header.toList = "; ".toList.intercalate (p.settings.request.cookies.entries.map spell) := by
  unfold cookieHeader? at h
  split at h
  · cases h
  · cases h
    rw [String.toList_intercalate, List.map_map]
    congr 2
    funext e
    simp [spell]

/-! ## Reading -/

/-- The text without the space that it begins with. -/
def dropSpace : List Char → List Char
  | ' ' :: s => s
  | s => s

/-- The name and the value on the two sides of the first equals sign. -/
def cookie (s : List Char) : String × String :=
  let (name, value) := cutBefore (· == '=') s
  (String.ofList name, String.ofList (value.drop 1))

/-- The cookies in the value of a header: one between two semicolons, and one space behind each
semicolon does not count. -/
def cookies (header : String) : List (String × String) :=
  match pieces (· == ';') header.toList with
  | [] => []
  | first :: rest => cookie first :: rest.map fun s => cookie (dropSpace s)

theorem cookie_spell {e : String × String} (clean : '=' ∉ e.1.toList) : cookie (spell e) = e := by
  unfold cookie spell
  rw [cutBefore_char clean]
  simp

/-- Texts without semicolons are found again between the semicolons that join them, each but the
first behind a space. -/
theorem pieces_intercalate {s : List Char} {ss : List (List Char)} (clean : ';' ∉ s)
    (others : ∀ t ∈ ss, ';' ∉ t) :
    pieces (· == ';') ("; ".toList.intercalate (s :: ss)) = s :: ss.map (' ' :: ·) := by
  have plain {t : List Char} (clean : ';' ∉ t) : ∀ c ∈ t, (c == ';') = false := by
    intro c inside
    rw [beq_eq_false_iff_ne]
    rintro rfl
    exact clean inside
  induction ss generalizing s with
  | nil =>
    rw [List.intercalate_singleton, pieces_of_clean (plain clean)]
    rfl
  | cons t ss ih =>
    have next : ';' ∉ ' ' :: t := by
      rw [List.mem_cons, not_or]
      exact ⟨by decide, others t List.mem_cons_self⟩
    have behind := ih next fun u later => others u (List.mem_cons_of_mem t later)
    have joined : "; ".toList.intercalate (s :: t :: ss) =
        s ++ ';' :: "; ".toList.intercalate ((' ' :: t) :: ss) := by
      cases ss <;> simp [List.intercalate_cons_cons]
    rw [joined, pieces_append (plain clean) (beq_self_eq_true ';'), behind]
    rfl

theorem cookies_intercalate {es : List (String × String)}
    (pass : ∀ e ∈ es, Settings.cookieFault? e = none) {header : String}
    (written : header.toList = "; ".toList.intercalate (es.map spell)) (some_ : es ≠ []) :
    cookies header = es := by
  have named : ∀ e ∈ es, '=' ∉ e.1.toList := by
    intro e he sign
    have := (Settings.cookieFault?_eq_none_iff.1 (pass e he)).2.1 _ sign
    cases this
  have clean : ∀ e ∈ es, ';' ∉ spell e := by
    intro e he mark
    obtain ⟨-, name, value⟩ := Settings.cookieFault?_eq_none_iff.1 (pass e he)
    rcases List.mem_append.1 mark with inName | inValue
    · cases name _ inName
    · rcases List.mem_cons.1 inValue with sign | inValue
      · cases sign
      · cases value _ inValue
  cases es with
  | nil => exact absurd rfl some_
  | cons e es =>
    have others : ∀ t ∈ es.map spell, ';' ∉ t := by
      intro t ht
      obtain ⟨d, hd, rfl⟩ := List.mem_map.1 ht
      exact clean d (List.mem_cons_of_mem e hd)
    have cut := pieces_intercalate (clean e List.mem_cons_self) others
    rw [← List.map_cons, ← written] at cut
    unfold cookies
    rw [cut]
    dsimp only
    rw [cookie_spell (named e List.mem_cons_self), List.map_map, List.map_map]
    congr 1
    calc es.map ((fun s => cookie (dropSpace s)) ∘ (' ' :: ·) ∘ spell)
        = es.map id := List.map_congr_left fun d hd =>
          cookie_spell (named d (List.mem_cons_of_mem e hd))
      _ = es := List.map_id es

/-- **The header of the cookies says which cookies there are.**  Cookies that settings may hold
are read back from it, each under its name and with its whole value, in the order of the names;
there is no header if there is no cookie.  So no value begins, ends or renames another cookie,
and different cookies have different headers. -/
theorem cookies_of_header (p : Profile) (pass : Settings.CookiesPass p.settings.request.cookies) :
    (p.cookieHeader? = none ↔ p.settings.request.cookies = .empty) ∧
    (∀ header, p.cookieHeader? = some header →
      cookies header = p.settings.request.cookies.entries) ∧
    ∀ q : Profile, Settings.CookiesPass q.settings.request.cookies →
      q.cookieHeader? = p.cookieHeader? →
      q.settings.request.cookies = p.settings.request.cookies := by
  have read (q : Profile) (pass : Settings.CookiesPass q.settings.request.cookies)
      {header : String} (h : q.cookieHeader? = some header) :
      cookies header = q.settings.request.cookies.entries := by
    refine cookies_intercalate (Settings.cookiesPass_iff.1 pass) (toList_of_cookieHeader? h) ?_
    intro none
    rw [cookieHeader?_eq_none_iff.2 none] at h
    cases h
  refine ⟨?_, fun _ => read p pass, ?_⟩
  · rw [cookieHeader?_eq_none_iff]
    exact ⟨fun none => TextMap.eq_of_entries none, fun none => congrArg TextMap.entries none⟩
  · intro q passQ same
    apply TextMap.eq_of_entries
    cases h : p.cookieHeader? with
    | none =>
      rw [cookieHeader?_eq_none_iff.1 h, cookieHeader?_eq_none_iff.1 (same.trans h)]
    | some header => rw [← read p pass h, ← read q passQ (same.trans h)]

/-- Two cookies whose values hold what stands between names, values and cookies. -/
def baked : Profile where
  settings := { Settings.standard with
    request := { Settings.Request.standard with
      cookies := .ofList [("b", " a=é, "), ("a", "=")] } }
  excluded := []
  included? := none
  barred? := none
  selector := .body
  removed := []

theorem cookies_of_header_baked :
    Settings.CookiesPass baked.settings.request.cookies ∧
      baked.cookieHeader? = some "a==; b= a=é, " ∧
      cookies "a==; b= a=é, " = [("a", "="), ("b", " a=é, ")] := by
  have pass : Settings.CookiesPass baked.settings.request.cookies := by
    rw [Settings.cookiesPass_iff]
    decide +kernel
  have header : baked.cookieHeader? = some "a==; b= a=é, " := by decide +kernel
  exact ⟨pass, header, (cookies_of_header baked pass).2.1 _ header⟩

end Profile

end SiteWalk

import SiteWalk.Profile
import SiteWalk.Proofs.Text.Pieces
import SiteWalk.Proofs.Url.Written

/-!
# Pages named by a word

A link to a page of the root leads to an address whose only segment is the name of the page, in
percent encoding.  The words of settings are not encoded.  So the segment is the name only of a
page whose name is ASCII.

    resolve? ('/' :: w.toList) page = some u →
      u = { page with path := .segments [(segmentOf w).toList], … }           (resolve?_name)
    segmentOf w = w ↔ ∀ c ∈ w.toList, c.toNat < 128                       (segmentOf_eq_iff)
-/

namespace SiteWalk.Link

open Text

/-! ## Names -/

/-- A letter, a digit, a dash or an underscore; of the characters outside ASCII all that are no
blanks count, so that all letters and digits do. -/
def isNameChar (c : Char) : Bool :=
  if c.toNat < 128 then isAlnum c || c == '-' || c == '_' else !isBlank c

/-- The segment that a path has for a name. -/
def segmentOf (w : String) : String :=
  String.ofList (Url.Percent.encode Url.Percent.inPath w.toList)

/-- A character that has no other meaning in a link than itself. -/
def Plain (c : Char) : Prop :=
  isBlank c = false ∧ 32 < c.toNat ∧ c ∉ "&%./\\?#".toList

instance (c : Char) : Decidable (Plain c) := inferInstanceAs (Decidable (_ ∧ _))

variable {c : Char} {w : String}

theorem ascii_name : ∀ n < 128, isNameChar (Char.ofNat n) = true →
    Plain (Char.ofNat n) ∧ Url.Percent.inPath (Char.ofNat n) = false := by
  decide

theorem plain_of_isNameChar (h : isNameChar c = true) : Plain c := by
  by_cases ascii : c.toNat < 128
  · rw [← Char.ofNat_toNat c] at h ⊢
    exact (ascii_name c.toNat ascii h).1
  · have marks : "&%./\\?#".toList.all (·.toNat < 128) = true := by decide
    unfold isNameChar at h
    rw [if_neg ascii, Bool.not_eq_true'] at h
    exact ⟨h, by omega, fun mark =>
      ascii (of_decide_eq_true (List.all_eq_true.1 marks c mark))⟩

theorem inPath_of_isNameChar (ascii : c.toNat < 128) (h : isNameChar c = true) :
    Url.Percent.inPath c = false := by
  rw [← Char.ofNat_toNat c] at h ⊢
  exact (ascii_name c.toNat ascii h).2

/-- **The segment for a name is the name just if that is ASCII.** -/
theorem segmentOf_eq_iff (name : ∀ c ∈ w.toList, isNameChar c = true) :
    segmentOf w = w ↔ ∀ c ∈ w.toList, c.toNat < 128 := by
  unfold segmentOf
  rw [← String.toList_inj, String.toList_ofList]
  constructor
  · intro same c hc
    rw [← same] at hc
    exact Url.Percent.ascii_of_mem_encode hc
  · intro ascii
    exact Url.Percent.encode_of_plain fun c hc =>
      ⟨ascii c hc, inPath_of_isNameChar (ascii c hc) (name c hc)⟩

/-! ## Links -/

variable {s : List Char} {page u : Url}

theorem decodeClosed_of_plain (plain : '&' ∉ s) : Html.decodeClosed s = s := by
  induction s with
  | nil =>
    unfold Html.decodeClosed
    rfl
  | cons c s ih =>
    rw [List.mem_cons, not_or] at plain
    unfold Html.decodeClosed
    rw [if_neg (by simpa using Ne.symm plain.1), ih plain.2]

theorem dots_of_plain (plain : '%' ∉ s) : Url.dots s = s := by
  induction s with
  | nil => rfl
  | cons c s ih =>
    rw [List.mem_cons, not_or] at plain
    rw [Url.dots, ih plain.2]
    rintro _ _ rfl
    exact absurd rfl plain.1

theorem Plain.not_isSlash (plain : Plain c) (special : Bool) : Url.isSlash special c = false := by
  unfold Url.isSlash
  rw [Bool.or_eq_false_iff, Bool.and_eq_false_iff, beq_eq_false_iff_ne, beq_eq_false_iff_ne]
  refine ⟨?_, .inr ?_⟩
  all_goals
    rintro rfl
    exact plain.2.2 (by decide)

theorem Plain.not_endsPath (plain : Plain c) : Url.endsPath c = false := by
  unfold Url.endsPath
  rw [Bool.or_eq_false_iff, beq_eq_false_iff_ne, beq_eq_false_iff_ne]
  constructor
  all_goals
    rintro rfl
    exact plain.2.2 (by decide)

theorem pathFrom_name {scheme : List Char} (web : Url.IsWebScheme scheme)
    (plain : ∀ c ∈ s, Plain c) :
    Url.pathFrom scheme [] s = .segments [Url.Percent.encode Url.Percent.inPath s] := by
  have absent : ∀ d ∈ "&%./\\?#".toList, d ∉ s := fun d hd hs => (plain d hs).2.2 hd
  have whole : pieces (Url.isSlash true) s = [s] :=
    pieces_of_clean fun c hc => (plain c hc).not_isSlash true
  have dots : Url.dots s = s := dots_of_plain (absent _ (by decide))
  have noDot {t : List Char} (dot : '.' ∈ t) : ¬(s == t) = true := by
    rw [beq_iff_eq]
    rintro rfl
    exact absent _ (by decide) dot
  unfold Url.pathFrom
  dsimp only
  rw [web.not_file, web.special, if_neg (by decide), whole]
  show Url.Path.segments (Url.addSegment false [] s true) = _
  unfold Url.addSegment
  dsimp only
  rw [dots, if_neg (noDot (by decide)), if_neg (noDot (by decide))]
  rfl

theorem relative_name (web : page.isWeb = true) (plain : ∀ c ∈ s, Plain c) :
    Url.relative page ('/' :: s) = .ok { page with
      path := .segments [Url.Percent.encode Url.Percent.inPath s],
      query := none, fragment := none } := by
  have whole : cutBefore Url.endsPath s = (s, []) :=
    cutBefore_of_forall fun c hc => (plain c hc).not_endsPath
  have rooted : Url.withPath page (Url.pathFrom page.scheme []) s =
      { page with
        path := .segments [Url.Percent.encode Url.Percent.inPath s],
        query := none, fragment := none } := by
    unfold Url.withPath
    rw [whole]
    dsimp only
    rw [pathFrom_name (Url.isWeb_iff.1 web) plain]
    rfl
  rw [← rooted]
  cases s with
  | nil => rfl
  | cons d r =>
    have noSlash := (plain d List.mem_cons_self).not_isSlash true
    unfold Url.relative
    dsimp only
    rw [if_neg (by decide), if_neg (by decide), if_pos (by decide), if_neg (by simp [noSlash])]

/-- **A link to a name of the root leads to the segment for the name**, on the host of the page
that the link stands on. -/
theorem resolve?_name (name : ∀ c ∈ w.toList, isNameChar c = true) (web : page.isWeb = true)
    (h : resolve? ('/' :: w.toList) page = some u) :
    u = { page with
      path := .segments [(segmentOf w).toList], query := none, fragment := none } := by
  have plain : ∀ c ∈ w.toList, Plain c := fun c hc => plain_of_isNameChar (name c hc)
  have solid : ∀ c ∈ '/' :: w.toList, isBlank c = false :=
    List.forall_mem_cons.2 ⟨by decide, fun c hc => (plain c hc).1⟩
  have high : ∀ c ∈ '/' :: w.toList, 32 < c.toNat :=
    List.forall_mem_cons.2 ⟨by decide, fun c hc => (plain c hc).2.1⟩
  have noReference : '&' ∉ '/' :: w.toList := by
    rw [List.mem_cons, not_or]
    exact ⟨by decide, fun mark => (plain _ mark).2.2 (by decide)⟩
  obtain ⟨-, v, read, -, -, rfl⟩ := resolve?_eq_some_iff.1 h
  rw [trim_of_forall solid, decodeClosed_of_plain noReference] at read
  unfold Url.parseWith at read
  rw [Url.cleaned_of_forall high] at read
  dsimp only at read
  rw [show Url.cutScheme? ('/' :: w.toList) = none from rfl] at read
  dsimp only at read
  split at read
  · next mark => cases mark
  · cases read
  · rw [(Url.isWeb_iff.1 web).not_file, if_neg (by decide), relative_name web plain] at read
    cases read
    unfold segmentOf
    rw [String.toList_ofList]
    rfl

theorem hasSegmentIn_name {words : List String} (name : ∀ c ∈ w.toList, isNameChar c = true)
    (web : page.isWeb = true) (h : resolve? ('/' :: w.toList) page = some u) :
    hasSegmentIn words u = true ↔ segmentOf w ∈ words := by
  rw [resolve?_name name web h]
  show ([(segmentOf w).toList].any fun s => words.contains (String.ofList s)) = true ↔ _
  simp

/-! ## Addresses with one text -/

/-- What a link on a page leads to keeps its parts apart. -/
theorem tidy_of_resolve? {raw href : List Char} (read : Url.parse raw = .ok page)
    (h : resolve? href page = some u) : u.isWeb = true ∧ u.Tidy := by
  obtain ⟨-, v, link, web, -, rfl⟩ := resolve?_eq_some_iff.1 h
  have base : ∀ b ∈ some page, b.isWeb = true → b.Tidy := by
    rintro b ⟨⟩ web
    exact Url.tidy_parse read web
  exact ⟨web, (Url.tidy_parseWith base link web).dropFragment⟩

/-- No address that is read has a segment that is no ASCII. -/
theorem hasSegmentIn_of_tidy {words : List String} (tidy : u.Tidy)
    (other : ∀ w ∈ words, ∃ c ∈ w.toList, 128 ≤ c.toNat) : hasSegmentIn words u = false := by
  obtain ⟨names, path, some_, clean⟩ := tidy.path
  unfold hasSegmentIn
  rw [Url.segments?_eq path some_, Option.getD_some, List.any_eq_false]
  intro n hn among
  obtain ⟨c, hc, high⟩ := other _ (List.contains_iff_mem.1 among)
  rw [String.toList_ofList] at hc
  exact absurd ((clean n hn).plain c hc).1 (Nat.not_lt.2 high)

/-- Whether an address has a segment among the words is a matter of its text. -/
theorem hasSegmentIn_congr {v : Url} {words : List String} (webU : u.isWeb = true)
    (tidyU : u.Tidy) (webV : v.isWeb = true) (tidyV : v.Tidy) (same : u.toText = v.toText) :
    hasSegmentIn words u = hasSegmentIn words v := by
  have same : u.text = v.text := String.ofList_injective same
  unfold hasSegmentIn
  rw [Url.segments?_of_tidy webU tidyU, Url.segments?_of_tidy webV tidyV, same]

end SiteWalk.Link

namespace SiteWalk.Profile

theorem accepts_of_hasSegmentIn {p : Profile} {u : Url} (h : Link.hasSegmentIn p.excluded u = true)
    (seed : Url) : p.accepts seed u = false := by
  unfold accepts
  simp [h]

theorem excluded_of_ofSettings {s : Settings} {p : Profile} (h : ofSettings s = .ok p) :
    p.excluded = Link.wordList s.walk.excludedPages := by
  obtain ⟨-, _, _, _, -, -, -, rfl⟩ := ofSettings_eq_ok_iff.1 h
  rfl

end SiteWalk.Profile

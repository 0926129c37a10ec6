import SiteWalk.Proofs.Url.Tidy

/-!
# What is written of an address

The text of a tidy address of the web has visible characters only, and the characters that part
it stand where its parts end.  So the segments of its path can be read off.

    u.Tidy → ∀ c ∈ u.text, 32 < c.toNat                                      (visible_text)
    u.Tidy → u.segments? = some (segmentsIn u.text)                     (segments?_of_tidy)
-/

namespace SiteWalk.Url

open Text

variable {scheme : List Char}

/-! ## The text of an authority -/

namespace Authority

/-- The name and the password as they are written. -/
def who (a : Authority) : List Char :=
  a.username ++ match a.password with
    | none => []
    | some word => ':' :: word

/-- The port as it is written. -/
def portText : Option Nat → List Char
  | none => []
  | some n => ':' :: decimal n

/-- The host and the port as they are written. -/
def place (h : Host) (port : Option Nat) : List Char := h.text ++ portText port

variable {a : Authority} {h : Host} {c : Char}

theorem text_cases (host : a.host = some h) :
    (a.username = [] ∧ a.password = none ∧ a.text = place h a.port) ∨
      a.text = a.who ++ '@' :: place h a.port := by
  obtain ⟨username, password, host, port⟩ := a
  cases host
  unfold text place portText who
  cases password with
  | none =>
    cases username with
    | nil => cases port <;> simp
    | cons c s => cases port <;> simp
  | some w => cases port <;> simp

/-- A character that neither ends an authority nor is left out around it. -/
def IsInner (c : Char) : Prop := 32 < c.toNat ∧ endsAuthority true c = false

instance (c : Char) : Decidable (IsInner c) := inferInstanceAs (Decidable (_ ∧ _))

theorem inner_of_plain (ascii : c.toNat < 128) (free : Percent.inUser c = false) :
    IsInner c ∧ c ≠ '@' ∧ c ≠ ':' := by
  revert free
  unfold IsInner
  apply forall_char _ c ascii
  decide

theorem inner_of_who (tidy : a.Tidy scheme) (hc : c ∈ a.who) : IsInner c ∧ c ≠ '@' := by
  have plain {s : List Char} (plain : Percent.Plain Percent.inUser s) (hc : c ∈ s) :
      IsInner c ∧ c ≠ '@' := by
    obtain ⟨inner, sign, -⟩ := inner_of_plain (plain c hc).1 (plain c hc).2
    exact ⟨inner, sign⟩
  unfold who at hc
  rcases List.mem_append.1 hc with name | word
  · exact plain tidy.username name
  · split at word
    · cases word
    · next w password =>
      rcases List.mem_cons.1 word with rfl | word
      · decide
      · exact plain (tidy.password w password).2 word

theorem inner_of_allowed (h : Domain.isForbidden c = false) : IsInner c ∧ c ≠ '@' := by
  have other {d : Char} (bad : Domain.isForbidden d = true) : c ≠ d := by
    rintro rfl
    rw [bad] at h
    cases h
  refine ⟨⟨?_, ?_⟩, other (by decide)⟩
  · unfold Domain.isForbidden at h
    rw [Bool.or_eq_false_iff, Bool.or_eq_false_iff, decide_eq_false_iff_not] at h
    exact Nat.lt_of_not_le h.1.1
  · simp [endsAuthority, isSlash, @other '/' (by decide), @other '\\' (by decide),
      @other '?' (by decide), @other '#' (by decide)]

theorem inner_of_digit (digit : isDigit c = true) : IsInner c ∧ c ≠ '@' :=
  inner_of_allowed (Domain.isForbidden_of_isAlnum (isAlnum_of_isDigit digit))

theorem inner_of_place (networked : h.Networked) {port : Option Nat} (hc : c ∈ place h port) :
    IsInner c ∧ c ≠ '@' := by
  unfold place portText at hc
  rcases List.mem_append.1 hc with host | number
  · cases bad : Domain.isForbidden c with
    | false => exact inner_of_allowed bad
    | true => rcases Host.mark_of_networked networked host bad with rfl | rfl | rfl <;> decide
  · split at number
    · cases number
    · next n =>
      rcases List.mem_cons.1 number with rfl | digit
      · decide
      · exact inner_of_digit (decimal_digits n c digit)

/-- Nothing in a tidy authority ends it. -/
theorem Tidy.inner (tidy : a.Tidy scheme) (hc : c ∈ a.text) : IsInner c := by
  obtain ⟨h, host, networked⟩ := tidy.host
  rcases text_cases host with ⟨-, -, text⟩ | text
  · rw [text] at hc
    exact (inner_of_place networked hc).1
  · rw [text] at hc
    rcases List.mem_append.1 hc with who | back
    · exact (inner_of_who tidy who).1
    · rcases List.mem_cons.1 back with rfl | place
      · decide
      · exact (inner_of_place networked place).1

end Authority

/-! ## The text of an address -/

/-- The query and the fragment in the text of an address. -/
def tail (u : Url) : List Char :=
  let part (mark : Char) (p : Option (List Char)) : List Char :=
    match p with
    | some t => mark :: t
    | none => []
  part '?' u.query ++ part '#' u.fragment

theorem head_tail (u : Url) : ∀ c ∈ u.tail.head?, endsPath c = true := by
  unfold tail
  intro c hc
  cases query : u.query with
  | some t =>
    rw [query] at hc
    cases hc
    rfl
  | none =>
    cases fragment : u.fragment with
    | some t =>
      rw [query, fragment] at hc
      cases hc
      rfl
    | none =>
      rw [query, fragment] at hc
      cases hc

theorem text_eq {u : Url} {a : Authority} {names : List (List Char)}
    (authority : u.authority = some a) (path : u.path = .segments names) (some_ : names ≠ []) :
    u.text = u.scheme ++ ':' :: '/' :: '/' ::
      (a.text ++ '/' :: (join ['/'] names ++ u.tail)) := by
  have noMark : u.pathMark = [] := by
    unfold pathMark
    rw [authority]
  have pathText : u.path.text = '/' :: join ['/'] names := by
    rw [path]
    cases names with
    | nil => exact absurd rfl some_
    | cons n names => rfl
  unfold text
  rw [noMark, pathText, authority]
  simp only [List.append_assoc, List.cons_append, List.nil_append]
  rfl

theorem segments?_eq {u : Url} {names : List (List Char)} (path : u.path = .segments names)
    (some_ : names ≠ []) : u.segments? = some names := by
  unfold segments?
  rw [path]
  cases names with
  | nil => exact absurd rfl some_
  | cons n names => rfl

/-! ## Visible text -/

section Visible

variable {u : Url}

theorem cleaned_of_forall {s : List Char} (high : ∀ c ∈ s, 32 < c.toNat) : cleaned s = s := by
  unfold cleaned
  dsimp only
  rw [dropEnds_of_forall fun c hc => decide_eq_false (Nat.not_le.2 (high c hc)),
    List.filter_eq_self]
  intro c hc
  have visible := high c hc
  rw [Bool.not_eq_true', Bool.or_eq_false_iff, Bool.or_eq_false_iff]
  simp only [beq_eq_false_iff_ne]
  refine ⟨⟨?_, ?_⟩, ?_⟩
  all_goals
    rintro rfl
    revert visible
    decide

/-- The sets of characters that are not kept have all that is not visible in them. -/
theorem visible_of_plain {set : Char → Bool} {s : List Char}
    (hidden : ∀ n ≤ 32, set (Char.ofNat n) = true) (plain : Percent.Plain set s) :
    ∀ c ∈ s, 32 < c.toNat := by
  intro c hc
  by_contra low
  have inSet := hidden c.toNat (Nat.le_of_not_lt low)
  rw [Char.ofNat_toNat, (plain c hc).2] at inSet
  cases inSet

theorem visible_tail (tidy : u.Tidy) : ∀ c ∈ u.tail, 32 < c.toNat := by
  intro c hc
  unfold tail at hc
  dsimp only at hc
  rcases List.mem_append.1 hc with query | fragment
  · split at query
    · next q given =>
      rcases List.mem_cons.1 query with rfl | query
      · decide
      · exact visible_of_plain (by decide) (tidy.query q given) c query
    · cases query
  · split at fragment
    · next f given =>
      rcases List.mem_cons.1 fragment with rfl | fragment
      · decide
      · exact visible_of_plain (by decide) (tidy.fragment f given) c fragment
    · cases fragment

theorem visible_names {names : List (List Char)} (all : ∀ n ∈ names, IsSegment n) :
    ∀ c ∈ join ['/'] names, 32 < c.toNat ∧ endsPath c = false := by
  intro c hc
  rcases of_mem_join hc with slash | ⟨n, hn, inside⟩
  · rw [List.mem_singleton.1 slash]
    decide
  · exact ⟨visible_of_plain (by decide) (all n hn).plain c inside, (all n hn).not_endsPath inside⟩

theorem visible_text (web : u.isWeb = true) (tidy : u.Tidy) : ∀ c ∈ u.text, 32 < c.toNat := by
  obtain ⟨a, authority, tidyAuthority⟩ := tidy.authority
  obtain ⟨names, path, some_, all⟩ := tidy.path
  have scheme : ∀ c ∈ u.scheme, 32 < c.toNat := by
    intro c hc
    have all : u.scheme.all (32 < ·.toNat) = true := by
      rcases isWeb_iff.1 web with scheme | scheme <;>
        rw [scheme] <;>
        decide
    exact of_decide_eq_true (List.all_eq_true.1 all c hc)
  rw [text_eq authority path some_]
  simp only [List.forall_mem_append, List.forall_mem_cons]
  exact ⟨scheme, by decide, by decide, by decide, fun c hc => (tidyAuthority.inner hc).1, by decide,
    fun c hc => (visible_names all c hc).1, visible_tail tidy⟩

end Visible

/-! ## Segments -/

/-- The segments of the path in the text of an address of the web. -/
def segmentsIn (text : List Char) : List (List Char) :=
  let behindScheme := (cutBefore (· == ':') text).2.drop 3
  let path := (cutBefore (· == '/') behindScheme).2.drop 1
  pieces (· == '/') (cutBefore endsPath path).1

/-- **The segments of the path are read off the text** of an address of the web. -/
theorem segments?_of_tidy {u : Url} (web : u.isWeb = true) (tidy : u.Tidy) :
    u.segments? = some (segmentsIn u.text) := by
  obtain ⟨a, authority, tidyAuthority⟩ := tidy.authority
  obtain ⟨names, path, some_, clean⟩ := tidy.path
  have cleanPath : ∀ c ∈ join ['/'] names, endsPath c = false :=
    fun c hc => (visible_names clean c hc).2
  have cleanNames : ∀ n ∈ names, '/' ∉ n := fun n hn slash => by
    cases (clean n hn).whole _ slash
  have cleanAuthority : '/' ∉ a.text := fun slash => by
    cases (tidyAuthority.inner slash).2
  rw [segments?_eq path some_, text_eq authority path some_]
  unfold segmentsIn
  rw [cutBefore_char (isWeb_iff.1 web).colon_not_mem]
  show some names = some (pieces (· == '/') (cutBefore endsPath
    ((cutBefore (· == '/') (a.text ++ '/' :: (join ['/'] names ++ u.tail))).2.drop 1)).1)
  rw [cutBefore_char cleanAuthority]
  show some names = some (pieces (· == '/') (cutBefore endsPath (join ['/'] names ++ u.tail)).1)
  rw [cutBefore_append cleanPath u.head_tail, pieces_join cleanNames some_]

end SiteWalk.Url

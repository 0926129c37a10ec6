import SiteWalk.Proofs.Text.Search
import SiteWalk.Proofs.Url.Host
import SiteWalk.Proofs.Url.Percent
import SiteWalk.Url.Parse

/-!
# Addresses of the web

An address with the scheme `http` or `https` has its parts in one form and apart from each other,
however it was written: what is in percent encoding is not encoded again, no segment is parted by
a slash or stands for a directory, the host is one of the network, and a port is not that of the
scheme.

    parseWith base s = .ok u → u.isWeb = true → u.Tidy                       (tidy_parseWith)
-/

namespace SiteWalk.Url

open Text

/-! ## Dots -/

/-- The text stands for a directory, not for a name in it. -/
def IsDots (s : List Char) : Prop := dots s = ['.'] ∨ dots s = ['.', '.']

/-- Dots that are read in what is written were there before. -/
theorem dots_encode {set : Char → Bool} (dot : set '.' = false) {s t : List Char}
    (written : Percent.encode set s = t) (all : ∀ c ∈ dots t, c = '.') : dots s = dots t := by
  fun_induction dots t generalizing s with
  | case1 c r letter ih =>
    have letter : c = 'e' ∨ c = 'E' := by simpa using letter
    obtain ⟨q, rfl, rest⟩ := Percent.of_encode_eq_dot dot letter written
    rw [List.forall_mem_cons] at all
    rw [dots, if_pos (by simpa using letter), ih rest all.2]
  | case2 c r _ ih => cases all '%' List.mem_cons_self
  | case3 c r other ih =>
    rw [List.forall_mem_cons] at all
    obtain ⟨rfl, all⟩ := all
    obtain ⟨q, rfl, rest⟩ := Percent.of_encode_eq_cons written (by decide)
    rw [dots, ih rest all]
    rintro _ _ ⟨⟩
  | case4 =>
    cases s with
    | nil => rfl
    | cons c s => exact absurd written (Percent.encode_ne_nil (List.cons_ne_nil c s))

theorem isDots_of_encode {set : Char → Bool} (dot : set '.' = false) {s : List Char}
    (h : IsDots (Percent.encode set s)) : IsDots s := by
  have same : dots s = dots (Percent.encode set s) := by
    refine dots_encode dot rfl ?_
    rcases h with one | two
    · rw [one]
      simp
    · rw [two]
      simp
  unfold IsDots
  rwa [same]

/-! ## Segments -/

/-- A name in the form in which segments are kept. -/
structure IsSegment (s : List Char) : Prop where
  plain : Percent.Plain Percent.inPath s
  whole : ∀ c ∈ s, isSlash true c = false
  name : ¬ IsDots s

theorem IsSegment.not_endsPath {s : List Char} (h : IsSegment s) {c : Char} (hc : c ∈ s) :
    endsPath c = false := by
  obtain ⟨ascii, free⟩ := h.plain c hc
  revert free
  apply forall_char _ c ascii
  decide

/-- A path from the root whose segments are kept apart. -/
def Path.Tidy (path : Path) : Prop :=
  ∃ names, path = .segments names ∧ names ≠ [] ∧ ∀ n ∈ names, IsSegment n

theorem isSegment_nil : IsSegment [] where
  plain _ none := absurd none List.not_mem_nil
  whole _ none := absurd none List.not_mem_nil
  name h := by rcases h with one | two <;> contradiction

theorem isSegment_encode {s : List Char} (whole : ∀ c ∈ s, isSlash true c = false)
    (name : ¬ IsDots s) : IsSegment (Percent.encode Percent.inPath s) where
  plain := Percent.plain_encode (by decide) s
  whole c hc := by
    have marks : Percent.marks.any (isSlash true) = false := by decide
    rcases Percent.of_mem_encode hc with ⟨there, -⟩ | mark
    · exact whole c there
    · exact Bool.eq_false_iff.2 (List.any_eq_false.1 marks c mark)
  name := mt (isDots_of_encode (by decide)) name

section Segments

variable {names : List (List Char)} {s : List Char}

theorem isSegment_addSegment (all : ∀ n ∈ names, IsSegment n)
    (whole : ∀ c ∈ s, isSlash true c = false) (last : Bool) :
    ∀ n ∈ addSegment false names s last, IsSegment n := by
  have slash : ∀ n ∈ (if last then [[]] else [] : List (List Char)), IsSegment n := by
    intro n hn
    cases last with
    | false => cases hn
    | true =>
      rw [List.mem_singleton.1 hn]
      exact isSegment_nil
  have fewer : ∀ n ∈ (if names.getLast?.any isDrive then names else names.dropLast),
      IsSegment n := by
    intro n hn
    split at hn
    · exact all n hn
    · exact all n (List.dropLast_subset _ hn)
  intro n hn
  unfold addSegment at hn
  dsimp only at hn
  split at hn
  · exact (List.mem_append.1 hn).elim (fewer n) (slash n)
  split at hn
  · exact (List.mem_append.1 hn).elim (all n) (slash n)
  · next two one =>
    rw [Bool.false_and, Bool.false_and, if_neg (by decide)] at hn
    rcases List.mem_append.1 hn with before | new
    · exact all n before
    · rw [List.mem_singleton.1 new]
      rw [beq_iff_eq] at one two
      exact isSegment_encode whole fun isDots => isDots.elim one two

theorem addSegment_last_ne_nil : addSegment false names s true ≠ [] := by
  unfold addSegment
  dsimp only
  split
  · simp
  split
  · simp
  · rw [Bool.false_and, Bool.false_and, if_neg (by decide)]
    simp

theorem tidy_addSegments {ps : List (List Char)} (all : ∀ n ∈ names, IsSegment n)
    (clean : ∀ p ∈ ps, ∀ c ∈ p, isSlash true c = false) (some_ : ps ≠ []) :
    (Path.segments (addSegments false names ps)).Tidy := by
  induction ps generalizing names with
  | nil => exact absurd rfl some_
  | cons p ps ih =>
    have here := isSegment_addSegment all (clean p List.mem_cons_self)
    cases ps with
    | nil => exact ⟨_, rfl, addSegment_last_ne_nil, here true⟩
    | cons q ps =>
      exact ih (here false) (fun r hr => clean r (List.mem_cons_of_mem p hr))
        (List.cons_ne_nil q ps)

end Segments

/-! ## Schemes of the web -/

/-- The scheme is `http` or `https`. -/
def IsWebScheme (scheme : List Char) : Prop := scheme = "http".toList ∨ scheme = "https".toList

theorem isWeb_iff {u : Url} : u.isWeb = true ↔ IsWebScheme u.scheme := by
  unfold isWeb IsWebScheme
  rw [Bool.or_eq_true, beq_iff_eq, beq_iff_eq]

variable {scheme : List Char}

theorem IsWebScheme.special (web : IsWebScheme scheme) : isSpecialScheme scheme = true := by
  rcases web with rfl | rfl <;> decide

theorem IsWebScheme.not_file (web : IsWebScheme scheme) : isFileScheme scheme = false := by
  rcases web with rfl | rfl <;> decide

theorem IsWebScheme.colon_not_mem (web : IsWebScheme scheme) : ':' ∉ scheme := by
  rcases web with rfl | rfl <;> decide

theorem tidy_pathFrom (web : IsWebScheme scheme) {names : List (List Char)}
    (all : ∀ n ∈ names, IsSegment n) (s : List Char) : (pathFrom scheme names s).Tidy := by
  unfold pathFrom
  dsimp only
  rw [web.not_file, web.special, if_neg (by decide)]
  exact tidy_addSegments all (fun p hp c hc => (of_mem_pieces hp hc).2) (pieces_ne_nil _ s)

theorem tidy_pathAfterAuthority (web : IsWebScheme scheme) (s : List Char) :
    (pathAfterAuthority scheme s).Tidy := by
  have none : ∀ n ∈ ([] : List (List Char)), IsSegment n := fun _ h => absurd h List.not_mem_nil
  unfold pathAfterAuthority
  dsimp only
  rw [web.special]
  split
  · exact ⟨[[]], rfl, List.cons_ne_nil _ _, List.forall_mem_singleton.2 isSegment_nil⟩
  · split
    · exact tidy_pathFrom web none _
    · exact tidy_pathFrom web none _

/-! ## Authorities -/

/-- An authority in the form in which addresses of the scheme keep it. -/
structure Authority.Tidy (scheme : List Char) (a : Authority) : Prop where
  username : Percent.Plain Percent.inUser a.username
  password : ∀ w ∈ a.password, w ≠ [] ∧ Percent.Plain Percent.inUser w
  host : ∃ h, a.host = some h ∧ h.Networked
  port : ∀ n ∈ a.port, n ≤ 65535 ∧ defaultPort? scheme ≠ some n

theorem plain_user (s : List Char) : Percent.Plain Percent.inUser (user s).username ∧
    ∀ w ∈ (user s).password, w ≠ [] ∧ Percent.Plain Percent.inUser w := by
  have plain (s : List Char) : Percent.Plain Percent.inUser (Percent.encode Percent.inUser s) :=
    Percent.plain_encode (by decide) s
  refine ⟨plain _, ?_⟩
  intro w hw
  unfold user at hw
  dsimp only at hw
  split at hw
  · cases hw
  · next long =>
    cases hw
    refine ⟨Percent.encode_ne_nil ?_, plain _⟩
    rw [ne_eq, List.drop_eq_nil_iff]
    exact long

theorem of_port? {s : List Char} {port : Option Nat} (read : port? scheme s = .ok port) :
    ∀ n ∈ port, n ≤ 65535 ∧ defaultPort? scheme ≠ some n := by
  intro n hn
  unfold port? at read
  split at read
  · split at read
    · cases read
      cases hn
    split at read
    · split at read
      · cases read
      · next small =>
        cases read
        split at hn
        · cases hn
        · next other =>
          cases hn
          rw [beq_iff_eq] at other
          exact ⟨Nat.le_of_not_lt small, other⟩
    · cases read
  · cases read
    cases hn

theorem tidy_at {s : List Char} {host : Host} {port : Option Nat} (networked : host.Networked)
    (number : ∀ n ∈ port, n ≤ 65535 ∧ defaultPort? scheme ≠ some n) :
    ({ user s with host := some host, port := port } : Authority).Tidy scheme where
  username := (plain_user s).1
  password := (plain_user s).2
  host := ⟨host, rfl, networked⟩
  port := number

theorem cutPort_subset (inside : Bool) (s : List Char) : (cutPort inside s).1 ⊆ s := by
  fun_induction cutPort inside s with
  | case1 => exact List.nil_subset _
  | case2 => exact List.nil_subset _
  | case3 inside c r _ front back cut ih =>
    rw [cut] at ih
    exact List.cons_subset_cons c ih

/-- All that an authority is read from: who is asked, a host and a port. -/
theorem of_authority? (web : IsWebScheme scheme) {s rest : List Char} {a : Authority}
    (read : authority? scheme s = .ok (a, rest)) :
    ∃ who t digits h port, t ⊆ s ∧ Host.ofNetwork t = .ok h ∧ port? scheme digits = .ok port ∧
      a = { user who with host := some h, port := port } := by
  have inside : (cutBefore (endsAuthority true) s).1 ⊆ s := List.takeWhile_subset _
  unfold authority? at read
  simp only [web.special, bind, Except.bind, throw, throwThe, MonadExceptOf.throw, pure,
    Except.pure, Bool.true_or, if_true] at read
  have place {t : List Char} (part : t ⊆ (cutBefore (endsAuthority true) s).1) :
      (cutPort false t).1 ⊆ s :=
    fun _ hc => inside (part (cutPort_subset false t hc))
  have behind {front back : List Char}
      (cut : cutLast? '@' (cutBefore (endsAuthority true) s).1 = some (front, back)) :
      back ⊆ (cutBefore (endsAuthority true) s).1 := by
    rw [append_of_cutLast? cut]
    exact fun _ hc => List.mem_append_right _ (List.mem_cons_of_mem _ hc)
  -- the host is read in the same way with and without a user before it
  split at read
  all_goals
    next cut =>
    split at read
    · cases read
    split at read
    · cases read
    split at read
    · cases read
    next host =>
    split at read
    · cases read
    next number =>
    cases read
    refine ⟨_, _, _, _, _, place ?_, host, number, rfl⟩
    first
      | exact behind cut
      | exact List.Subset.refl _

theorem tidy_authority? (web : IsWebScheme scheme) {s rest : List Char} {a : Authority}
    (read : authority? scheme s = .ok (a, rest)) : a.Tidy scheme := by
  obtain ⟨who, t, digits, h, port, -, host, number, rfl⟩ := of_authority? web read
  exact tidy_at (Host.networked host) (of_port? number)

/-! ## Addresses -/

/-- An address whose parts are in the form in which addresses of the web keep them. -/
structure Tidy (u : Url) : Prop where
  authority : ∃ a, u.authority = some a ∧ a.Tidy u.scheme
  path : u.path.Tidy
  query : ∀ q ∈ u.query, Percent.Plain (Percent.inQuery true) q
  fragment : ∀ f ∈ u.fragment, Percent.Plain Percent.inFragment f

section Parts

variable {u v base : Url} {s : List Char} {path : List Char → Path}

@[simp] theorem withRest_scheme (u : Url) (s : List Char) : (withRest u s).scheme = u.scheme := by
  unfold withRest
  split <;> rfl

@[simp] theorem withRest_authority (u : Url) (s : List Char) :
    (withRest u s).authority = u.authority := by
  unfold withRest
  split <;> rfl

@[simp] theorem withRest_path (u : Url) (s : List Char) : (withRest u s).path = u.path := by
  unfold withRest
  split <;> rfl

@[simp] theorem withPath_scheme : (withPath u path s).scheme = u.scheme := by
  simp [withPath]

theorem plain_fragment (s : List Char) :
    Percent.Plain Percent.inFragment (Percent.encode Percent.inFragment s) :=
  Percent.plain_encode (by decide) s

theorem Tidy.setFragment (h : u.Tidy) {fragment : Option (List Char)}
    (plain : ∀ f ∈ fragment, Percent.Plain Percent.inFragment f) :
    ({ u with fragment := fragment } : Url).Tidy :=
  ⟨h.authority, h.path, h.query, plain⟩

theorem Tidy.dropFragment (h : u.Tidy) : u.dropFragment.Tidy :=
  h.setFragment fun _ none => absurd none (Option.not_mem_none _)

theorem Tidy.onlyFragment (h : u.Tidy) : (onlyFragment u s).Tidy :=
  h.setFragment fun f hf => by
    cases hf
    exact plain_fragment _

theorem tidy_withRest (web : IsWebScheme u.scheme)
    (authority : ∃ a, u.authority = some a ∧ a.Tidy u.scheme) (path : u.path.Tidy) :
    (withRest u s).Tidy := by
  have marks : Percent.marks.any (Percent.inQuery true) = false := by decide
  refine ⟨by simpa using authority, by simpa using path, ?_, ?_⟩
  · intro q hq
    unfold withRest at hq
    split at hq
    · cases hq
      rw [web.special]
      exact Percent.plain_encode marks _
    · cases hq
  · intro f hf
    unfold withRest at hf
    split at hf
    · dsimp only at hf
      split at hf
      · cases hf
        exact plain_fragment _
      · cases hf
    · dsimp only at hf
      split at hf
      · cases hf
        exact plain_fragment _
      · cases hf

theorem tidy_withPath (web : IsWebScheme u.scheme)
    (authority : ∃ a, u.authority = some a ∧ a.Tidy u.scheme)
    (tidy : ∀ front, (path front).Tidy) : (withPath u path s).Tidy :=
  tidy_withRest web authority (tidy _)

theorem tidy_afterSlashes (web : IsWebScheme scheme) (read : afterSlashes scheme s = .ok u) :
    u.Tidy := by
  unfold afterSlashes at read
  simp only [bind, Except.bind, pure, Except.pure] at read
  split at read
  · cases read
  · next parts authority =>
    cases read
    exact tidy_withPath web ⟨_, rfl, tidy_authority? web authority⟩ (tidy_pathAfterAuthority web)

theorem scheme_afterSlashes (read : afterSlashes scheme s = .ok u) : u.scheme = scheme := by
  unfold afterSlashes at read
  simp only [bind, Except.bind, pure, Except.pure] at read
  split at read
  · cases read
  · cases read
    exact withPath_scheme

theorem scheme_relative (read : relative base s = .ok u) : u.scheme = base.scheme := by
  unfold relative at read
  repeat' split at read
  all_goals first
    | exact scheme_afterSlashes read
    | cases read; simp [dropFragment, onlyFragment]

theorem tidy_relative (web : IsWebScheme base.scheme) (tidy : base.Tidy)
    (read : relative base s = .ok u) : u.Tidy := by
  have rooted (r : List Char) : (withPath base (pathFrom base.scheme []) r).Tidy :=
    tidy_withPath web tidy.authority (tidy_pathFrom web fun _ h => absurd h List.not_mem_nil)
  unfold relative at read
  split at read
  · cases read
    exact tidy.dropFragment
  split at read
  · cases read
    exact tidy_withRest web tidy.authority tidy.path
  split at read
  · cases read
    exact tidy.onlyFragment
  split at read
  · split at read
    · split at read
      · exact tidy_afterSlashes web read
      · cases read
        exact rooted _
    · cases read
      exact rooted _
  · cases read
    obtain ⟨names, path, -, all⟩ := tidy.path
    refine tidy_withPath web tidy.authority (tidy_pathFrom web ?_)
    rw [path]
    exact fun n hn => all n (List.dropLast_subset _ hn)

/-- What is read as the address of a file is of that scheme. -/
theorem scheme_file {base : Option Url} (same : ∀ b ∈ base, b.scheme = fileScheme)
    (read : file base s = .ok u) : u.scheme = fileScheme := by
  have placed (host : Option Host) (s : List Char) :
      (withFilePath host s).scheme = fileScheme := by
    unfold withFilePath
    dsimp only
    split
    · split <;> simp [fileUrl]
    · simp [fileUrl]
  have rooted (r : List Char) : (file.rooted base r).scheme = fileScheme := by
    unfold file.rooted
    repeat' split
    all_goals simp [fileUrl]
  unfold file at read
  split at read
  · next c r =>
    split at read
    · split at read
      · split at read
        · split at read
          split at read
          · cases read
            simp [fileUrl]
          · simp only [bind, Except.bind, pure, Except.pure] at read
            split at read
            · cases read
            · cases read
              exact placed _ _
        · cases read
          exact rooted _
      · cases read
        exact rooted _
    · split at read
      · cases read
        simp [fileUrl]
      · next b =>
        have kept : b.scheme = fileScheme := same b rfl
        repeat' split at read
        all_goals
          cases read
          simp [kept, fileUrl, onlyFragment]
  · split at read
    · next b =>
      cases read
      exact same b rfl
    · cases read
      simp [fileUrl]

theorem not_isWeb_of_file (scheme : u.scheme = fileScheme) : u.isWeb = false := by
  unfold isWeb
  rw [scheme]
  decide

/-- What is read behind a scheme as an address of the web is read behind slashes or against an
address. -/
theorem of_absolute {base : Option Url} (web : u.isWeb = true)
    (read : absolute base scheme s = .ok u) :
    (∃ k, afterSlashes scheme (s.drop k) = .ok u) ∨
      ∃ b ∈ base, relative b s = .ok u := by
  unfold absolute at read
  split at read
  · have file : u.scheme = fileScheme := by
      refine scheme_file ?_ read
      intro b hb
      exact beq_iff_eq.1 (Option.filter_eq_some_iff.1 hb).2
    rw [not_isWeb_of_file file] at web
    cases web
  split at read
  · dsimp only at read
    split at read
    · next b hb =>
      obtain ⟨hb, -⟩ := Option.filter_eq_some_iff.1 hb
      split at read
      · exact .inr ⟨b, hb, read⟩
      · exact .inl ⟨_, read⟩
    · exact .inl ⟨_, read⟩
  · next other =>
    have kept : u.scheme = scheme := by
      split at read
      · exact scheme_afterSlashes read
      · cases read
        exact withPath_scheme
      · cases read
        exact withPath_scheme
    have := (isWeb_iff.1 web).special
    rw [kept] at this
    exact absurd this other

theorem tidy_absolute {base : Option Url} (web : u.isWeb = true)
    (tidy : ∀ b ∈ base, b.isWeb = true → b.Tidy) (read : absolute base scheme s = .ok u) :
    u.Tidy := by
  rcases of_absolute web read with ⟨k, read⟩ | ⟨b, hb, read⟩
  · exact tidy_afterSlashes (scheme_afterSlashes read ▸ isWeb_iff.1 web) read
  · have webBase : b.isWeb = true := by rwa [isWeb_iff, ← scheme_relative read, ← isWeb_iff]
    exact tidy_relative (isWeb_iff.1 webBase) (tidy b hb webBase) read

/-- **An address of the web that is read keeps its parts apart**, on its own or against an
address that does. -/
theorem tidy_parseWith {base : Option Url} (tidy : ∀ b ∈ base, b.isWeb = true → b.Tidy)
    (read : parseWith base s = .ok u) (web : u.isWeb = true) : u.Tidy := by
  unfold parseWith at read
  dsimp only at read
  split at read
  · exact tidy_absolute web tidy read
  · split at read
    · cases read
    · next b =>
      split at read
      · cases read
        exact (tidy b rfl web).onlyFragment
      · cases read
      · split at read
        · next file =>
          have file : u.scheme = fileScheme := by
            refine scheme_file ?_ read
            rintro c ⟨⟩
            exact beq_iff_eq.1 file
          rw [not_isWeb_of_file file] at web
          cases web
        · have webBase : b.isWeb = true := by rwa [isWeb_iff, ← scheme_relative read, ← isWeb_iff]
          exact tidy_relative (isWeb_iff.1 webBase) (tidy b rfl webBase) read

theorem tidy_parse (read : parse s = .ok u) (web : u.isWeb = true) : u.Tidy :=
  tidy_parseWith (fun _ none => absurd none (Option.not_mem_none _)) read web

end Parts

end SiteWalk.Url

import SiteWalk.Link.Resolve
import SiteWalk.Proofs.Url.HostText
import SiteWalk.Proofs.Url.Written

/-!
# Addresses are read back

The text of a tidy address of the web is read as this address, if its host is an address of
numbers or a name that is its own ASCII form.  What a text is read as is tidy, so it is written
once and for all; and its host is its own if the text is spelt in ASCII.

    u.Tidy → u.isWeb = true → u.IsOwn → parse u.text = .ok u                     (parse_text)
    parseWith base s = .ok u → u.isWeb = true → u.IsOwn → parse u.text = .ok u   (parse_read)
    seed? raw = .ok u → u.IsOwn → parse u.toText.toList = .ok u      (Link.parse_text_of_seed?)
-/

namespace SiteWalk.Url

open Text

variable {scheme : List Char}

/-! ## Paths -/

section Segments

variable {names : List (List Char)}

theorem addSegment_of_isSegment {s : List Char} (h : IsSegment s) (last : Bool) :
    addSegment false names s last = names ++ [s] := by
  have two : ¬ (dots s == ['.', '.']) = true := fun two => h.name (.inr (beq_iff_eq.1 two))
  have one : ¬ (dots s == ['.']) = true := fun one => h.name (.inl (beq_iff_eq.1 one))
  unfold addSegment
  dsimp only
  rw [if_neg two, if_neg one, Bool.false_and, Bool.false_and, if_neg (by decide),
    Percent.encode_of_plain h.plain]

theorem addSegments_of_isSegment {ps : List (List Char)} (all : ∀ p ∈ ps, IsSegment p) :
    addSegments false names ps = names ++ ps := by
  induction ps generalizing names with
  | nil => exact (List.append_nil names).symm
  | cons p ps ih =>
    rw [List.forall_mem_cons] at all
    cases ps with
    | nil => exact addSegment_of_isSegment all.1 true
    | cons q ps =>
      unfold addSegments
      rw [addSegment_of_isSegment all.1, ih all.2, List.append_assoc, List.singleton_append]

theorem pathAfterAuthority_text (web : IsWebScheme scheme) (some_ : names ≠ [])
    (all : ∀ n ∈ names, IsSegment n) :
    pathAfterAuthority scheme ('/' :: join ['/'] names) = .segments names := by
  have whole {n : List Char} (hn : n ∈ names) {c : Char} (hc : c ∈ n) :
      (c == '/') = false ∧ (c == '\\') = false := by
    have := (all n hn).whole c hc
    unfold isSlash at this
    rwa [Bool.true_and, Bool.or_eq_false_iff] at this
  have cut : pieces (isSlash true) (join ['/'] names) = names := by
    have same : ∀ c ∈ join ['/'] names, isSlash true c = (c == '/') := by
      intro c hc
      unfold isSlash
      rcases of_mem_join hc with slash | ⟨n, hn, inside⟩
      · rw [List.mem_singleton.1 slash]
        rfl
      · rw [(whole hn inside).2, Bool.and_false, Bool.or_false]
    rw [pieces_congr same]
    refine pieces_join (fun n hn slash => ?_) some_
    cases (whole hn slash).1
  unfold pathAfterAuthority
  dsimp only
  rw [web.special, if_pos (by decide)]
  unfold pathFrom
  dsimp only
  rw [web.not_file, web.special, cut, addSegments_of_isSegment all]
  rfl

end Segments

/-! ## Query and fragment -/

/-- The query reaches up to the fragment. -/
theorem withRest_query (v : Url) {q s : List Char} (clean : ∀ c ∈ q, (c == '#') = false)
    (here : ∀ c ∈ s.head?, (c == '#') = true) :
    withRest v ('?' :: (q ++ s)) = { v with
      query := some (Percent.encode (Percent.inQuery (isSpecialScheme v.scheme)) q)
      fragment := (withRest v s).fragment } := by
  conv => lhs; unfold withRest
  split
  · next same =>
    rw [← (List.cons.inj same).2, cutBefore_append clean here]
    cases s with
    | nil => rfl
    | cons c s =>
      rw [beq_iff_eq.1 (here c rfl)]
      rfl
  · next other => exact absurd rfl (other _)

/-- What follows the path of a tidy address is read back. -/
theorem withRest_tail {u : Url} (web : IsWebScheme u.scheme) (tidy : u.Tidy) {v : Url}
    (same : v.scheme = u.scheme) :
    withRest v u.tail = { v with query := u.query, fragment := u.fragment } := by
  have kept {f : List Char} (hf : f ∈ u.fragment) : Percent.encode Percent.inFragment f = f :=
    Percent.encode_of_plain (tidy.fragment f hf)
  unfold tail
  cases query : u.query with
  | none =>
    cases fragment : u.fragment with
    | none => rfl
    | some f =>
      show { v with query := none, fragment := some (Percent.encode Percent.inFragment f) } = _
      rw [kept fragment]
  | some q =>
    have plain := tidy.query q query
    have clean : ∀ c ∈ q, (c == '#') = false := by
      intro c hc
      rw [beq_eq_false_iff_ne]
      rintro rfl
      cases (plain _ hc).2
    have written : Percent.encode (Percent.inQuery (isSpecialScheme v.scheme)) q = q := by
      rw [same, web.special]
      exact Percent.encode_of_plain plain
    cases fragment : u.fragment with
    | none =>
      show withRest v ('?' :: (q ++ [])) = _
      rw [withRest_query v clean (by simp), written]
      rfl
    | some f =>
      show withRest v ('?' :: (q ++ '#' :: f)) = _
      rw [withRest_query v clean (by simp), written]
      show { v with query := some q, fragment := some (Percent.encode Percent.inFragment f) } = _
      rw [kept fragment]

/-! ## Authorities -/

namespace Authority

variable {a : Authority} {h : Host} {port : Option Nat}

theorem user_who (tidy : a.Tidy scheme) :
    (user a.who).username = a.username ∧ (user a.who).password = a.password := by
  have clean : ∀ c ∈ a.username, (c == ':') = false := by
    intro c hc
    rw [beq_eq_false_iff_ne]
    exact (inner_of_plain (tidy.username c hc).1 (tidy.username c hc).2).2.2
  have name : Percent.encode Percent.inUser a.username = a.username :=
    Percent.encode_of_plain tidy.username
  unfold who user
  cases password : a.password with
  | none =>
    dsimp only
    rw [List.append_nil, cutBefore_of_forall clean]
    exact ⟨name, rfl⟩
  | some w =>
    obtain ⟨some_, plain⟩ := tidy.password w password
    have long : ¬ (':' :: w).length ≤ 1 := by
      cases w with
      | nil => exact absurd rfl some_
      | cons c w => simp
    dsimp only
    rw [cutBefore_append clean (by simp)]
    dsimp only
    rw [if_neg long]
    exact ⟨name, congrArg some (Percent.encode_of_plain plain)⟩

theorem cutPort_portText (port : Option Nat) :
    cutPort false (portText port) = ([], portText port) := by
  cases port <;> rfl

/-- A port begins at the first colon outside brackets. -/
theorem cutPort_append {s : List Char} (clean : ∀ c ∈ s, c ≠ ':' ∧ c ≠ '[') (t : List Char) :
    cutPort false (s ++ t) = (s ++ (cutPort false t).1, (cutPort false t).2) := by
  induction s with
  | nil => rfl
  | cons c s ih =>
    rw [List.forall_mem_cons] at clean
    obtain ⟨⟨colon, bracket⟩, clean⟩ := clean
    rw [List.cons_append, cutPort, beq_eq_false_iff_ne.2 colon, beq_eq_false_iff_ne.2 bracket,
      Bool.false_and, Bool.false_or, Bool.false_and, if_neg (by decide), ih clean]
    rfl

theorem cutPort_inside {s : List Char} (clean : ∀ c ∈ s, c ≠ ']') (t : List Char) :
    cutPort true (s ++ ']' :: t) = (s ++ ']' :: (cutPort false t).1, (cutPort false t).2) := by
  induction s with
  | nil => rfl
  | cons c s ih =>
    rw [List.forall_mem_cons] at clean
    rw [List.cons_append, cutPort, Bool.not_true, Bool.and_false, if_neg (by decide),
      Bool.true_and, bne_iff_ne.2 clean.1, Bool.or_true, ih clean.2]
    rfl

theorem cutPort_place (networked : h.Networked) (port : Option Nat) :
    cutPort false (place h port) = (h.text, portText port) := by
  unfold place
  rcases Host.allowed_of_networked networked with ⟨gs, rfl⟩ | clean
  · have inside : ∀ c ∈ Host.ipv6Text gs, c ≠ ']' := by
      intro c hc
      rintro rfl
      rcases Host.of_mem_ipv6Text hc with colon | other
      · cases colon
      · cases other
    have text : (Host.ipv6 gs).text ++ portText port =
        '[' :: (Host.ipv6Text gs ++ ']' :: portText port) := by
      unfold Host.text
      simp
    have cut : cutPort false ('[' :: (Host.ipv6Text gs ++ ']' :: portText port)) =
        ('[' :: (cutPort true (Host.ipv6Text gs ++ ']' :: portText port)).1,
          (cutPort true (Host.ipv6Text gs ++ ']' :: portText port)).2) := rfl
    rw [text, cut, cutPort_inside inside, cutPort_portText]
    rfl
  · have other : ∀ c ∈ h.text, c ≠ ':' ∧ c ≠ '[' := by
      intro c hc
      have allowed := clean c hc
      constructor <;>
        rintro rfl <;>
        cases allowed
    rw [cutPort_append other, cutPort_portText, List.append_nil]

theorem port?_portText (number : ∀ n ∈ port, n ≤ 65535 ∧ defaultPort? scheme ≠ some n) :
    port? scheme (portText port) = .ok port := by
  cases port with
  | none => rfl
  | some n =>
    obtain ⟨small, other⟩ := number n rfl
    obtain ⟨c, r, shape, -⟩ := decimal_head n
    have some_ : (decimal n).isEmpty = false := by rw [shape]; rfl
    show (if (decimal n).isEmpty then _ else _) = _
    rw [some_, decimal?_decimal]
    show (if n > 65535 then _ else _) = _
    rw [if_neg (Nat.not_lt.2 small), if_neg (by simpa using other)]

theorem Tidy.text_ne_nil (tidy : a.Tidy scheme) : a.text ≠ [] := by
  obtain ⟨h, host, networked⟩ := tidy.host
  rcases text_cases host with ⟨-, -, text⟩ | text
  · rw [text]
    exact List.append_ne_nil_of_left_ne_nil (Host.text_ne_nil networked) _
  · rw [text]
    exact List.append_ne_nil_of_right_ne_nil _ (List.cons_ne_nil _ _)

/-- No further slash stands before a tidy authority. -/
theorem Tidy.head_text (tidy : a.Tidy scheme) (s : List Char) :
    ∀ c ∈ (a.text ++ s).head?, isSlash true c = false := by
  intro c hc
  obtain ⟨d, r, text⟩ := List.exists_cons_of_ne_nil tidy.text_ne_nil
  rw [text] at hc
  cases hc
  have inner := (tidy.inner (text ▸ List.mem_cons_self)).2
  unfold endsAuthority at inner
  rw [Bool.or_eq_false_iff, Bool.or_eq_false_iff] at inner
  exact inner.1.1

/-- Who is asked and where, as the text before the path says it. -/
theorem cutLast?_text (tidy : a.Tidy scheme) (host : a.host = some h) :
    (cutLast? '@' a.text = none ∧ a.username = [] ∧ a.password = none ∧
        a.text = place h a.port) ∨
      cutLast? '@' a.text = some (a.who, place h a.port) := by
  obtain ⟨k, host', networked⟩ := tidy.host
  obtain rfl : h = k := Option.some.inj (host.symm.trans host')
  have clean : '@' ∉ place h a.port := fun sign => (inner_of_place networked sign).2 rfl
  rcases text_cases host with ⟨name, word, text⟩ | text
  · rw [text]
    exact .inl ⟨cutLast?_of_not_mem clean, name, word, rfl⟩
  · rw [text]
    exact .inr (cutLast?_append clean _)

/-- A port is written without backslashes. -/
theorem cutBefore_portText (port : Option Nat) :
    cutBefore (· == '\\') (portText port) = (portText port, []) := by
  refine cutBefore_of_forall fun c hc => beq_eq_false_iff_ne.2 ?_
  rintro rfl
  cases port with
  | none => cases hc
  | some n => cases decimal_digits n _ ((List.mem_cons.1 hc).resolve_left (by decide))

/-- **A tidy authority is read back**, up to where the path begins. -/
theorem authority?_text (web : IsWebScheme scheme) (tidy : a.Tidy scheme)
    (own : ∀ h ∈ a.host, h.IsOwn) {rest : List Char} (slash : rest.head? = some '/') :
    authority? scheme (a.text ++ rest) = .ok (a, rest) := by
  obtain ⟨h, host, networked⟩ := tidy.host
  have cut : cutBefore (endsAuthority true) (a.text ++ rest) = (a.text, rest) := by
    refine cutBefore_append (fun c hc => (tidy.inner hc).2) fun c hc => ?_
    rw [slash] at hc
    cases hc
    rfl
  have some_ : h.text.isEmpty = false := List.isEmpty_eq_false_iff.2 (Host.text_ne_nil networked)
  have someone : (place h a.port).isEmpty = false := List.isEmpty_eq_false_iff.2
    (List.append_ne_nil_of_left_ne_nil (Host.text_ne_nil networked) _)
  have read : Host.ofNetwork h.text = .ok h := Host.ofNetwork_text networked (own h host)
  have number : port? scheme (portText a.port) = .ok a.port := port?_portText tidy.port
  unfold authority?
  simp only [web.special, bind, Except.bind, throw, throwThe, MonadExceptOf.throw, pure,
    Except.pure, Bool.true_or, if_true, cut]
  rcases cutLast?_text tidy host with ⟨nobody, name, word, text⟩ | who
  · rw [text] at nobody ⊢
    simp only [nobody, cutPort_place networked, some_, someone, read, cutBefore_portText, number,
      Bool.and_false, Bool.false_and, Bool.false_eq_true, if_false]
    obtain ⟨username, password, _, port⟩ := a
    cases host
    cases name
    cases word
    rfl
  · obtain ⟨name, word⟩ := user_who tidy
    simp only [who, cutPort_place networked, some_, someone, read, cutBefore_portText, number,
      Bool.and_false, Bool.false_and, Bool.false_eq_true, if_false, Option.getD_some, name, word]
    rw [← host]
    rfl

end Authority

/-! ## Addresses -/

section Text

variable {u : Url}

/-- The host is an address of numbers, or a name that is its own ASCII form. -/
def IsOwn (u : Url) : Prop := ∀ h ∈ u.host?, h.IsOwn

theorem cutScheme?_text (web : IsWebScheme scheme) (s : List Char) :
    cutScheme? (scheme ++ ':' :: s) = some (scheme, s) := by
  rcases web with rfl | rfl <;> rfl

theorem absolute_text (web : IsWebScheme scheme) {s : List Char}
    (here : ∀ c ∈ s.head?, isSlash true c = false) :
    absolute none scheme ('/' :: '/' :: s) = afterSlashes scheme s := by
  have slashes : ('/' :: '/' :: s).takeWhile (isSlash true) = ['/', '/'] := by
    cases s with
    | nil => rfl
    | cons c s =>
      have stops : ¬ isSlash true c = true := Bool.eq_false_iff.1 (here c rfl)
      show '/' :: '/' :: (c :: s).takeWhile (isSlash true) = _
      rw [List.takeWhile_cons_of_neg stops]
  unfold absolute
  rw [web.not_file, web.special, slashes]
  rfl

/-- **The text of a tidy address of the web is read as this address.** -/
theorem parse_text (web : u.isWeb = true) (tidy : u.Tidy) (own : u.IsOwn) :
    parse u.text = .ok u := by
  obtain ⟨a, authority, tidyAuthority⟩ := tidy.authority
  obtain ⟨names, path, some_, all⟩ := tidy.path
  have scheme := isWeb_iff.1 web
  have read : authority? u.scheme (a.text ++ '/' :: (join ['/'] names ++ u.tail)) =
      .ok (a, '/' :: (join ['/'] names ++ u.tail)) := by
    refine Authority.authority?_text scheme tidyAuthority (fun h hh => own h ?_) rfl
    unfold host?
    rw [authority]
    exact hh
  have cut : cutBefore endsPath ('/' :: join ['/'] names ++ u.tail) =
      ('/' :: join ['/'] names, u.tail) := by
    refine cutBefore_append (List.forall_mem_cons.2 ⟨rfl, fun c hc => ?_⟩) u.head_tail
    exact (visible_names all c hc).2
  unfold parse parseWith
  rw [cleaned_of_forall (visible_text web tidy), text_eq authority path some_]
  dsimp only
  rw [cutScheme?_text scheme]
  dsimp only
  rw [absolute_text scheme (tidyAuthority.head_text _)]
  unfold afterSlashes
  rw [read]
  show Except.ok (withPath _ (pathAfterAuthority u.scheme) ('/' :: join ['/'] names ++ u.tail)) = _
  unfold withPath
  rw [cut]
  dsimp only
  have rest : withRest ⟨u.scheme, some a, .segments names, none, none⟩ u.tail =
      ⟨u.scheme, some a, .segments names, u.query, u.fragment⟩ := withRest_tail scheme tidy rfl
  rw [pathAfterAuthority_text scheme some_ all, rest, ← authority, ← path]

/-- What is read, on its own or against a tidy address, reads back. -/
theorem parse_read {base : Option Url} {s : List Char}
    (tidy : ∀ b ∈ base, b.isWeb = true → b.Tidy) (read : parseWith base s = .ok u)
    (web : u.isWeb = true) (own : u.IsOwn) : parse u.text = .ok u :=
  parse_text web (tidy_parseWith tidy read web) own

end Text

/-! ## Addresses spelt in ASCII -/

section Spelt

variable {u : Url} {s rest : List Char} {a : Authority}

/-- The host is read from a part of the text. -/
theorem host_of_afterSlashes (web : IsWebScheme scheme) (read : afterSlashes scheme s = .ok u) :
    ∃ t h, t ⊆ s ∧ Host.ofNetwork t = .ok h ∧ u.host? = some h := by
  unfold afterSlashes at read
  simp only [bind, Except.bind, pure, Except.pure] at read
  split at read
  · cases read
  · next parts authority =>
    cases read
    obtain ⟨who, t, digits, h, port, inside, host, -, same⟩ := of_authority? web authority
    refine ⟨t, h, inside, host, ?_⟩
    simp [host?, withPath, same]

theorem cleaned_subset (s : List Char) : cleaned s ⊆ s := by
  intro c hc
  have inner := List.mem_reverse.1 (List.mem_filter.1 hc).1
  exact List.dropWhile_subset _ (List.mem_reverse.1 (List.dropWhile_subset _ inner))

theorem cutScheme?_subset {s r : List Char} (cut : cutScheme? s = some (scheme, r)) : r ⊆ s := by
  unfold cutScheme? at cut
  split at cut
  · split at cut
    · split at cut
      · next same =>
        cases cut
        intro c hc
        exact List.dropWhile_subset isSchemeChar (same ▸ List.mem_cons_of_mem _ hc)
      · cases cut
    · cases cut
  · cases cut

/-- **An address of the web that is spelt in ASCII, without escapes, has a host of its own.** -/
theorem isOwn_of_ascii (read : parse s = .ok u) (web : u.isWeb = true)
    (ascii : Domain.isAscii s = true) (clean : '%' ∉ s) : u.IsOwn := by
  unfold parse parseWith at read
  dsimp only at read
  split at read
  · next scheme r cut =>
    rcases of_absolute web read with ⟨k, read⟩ | ⟨b, none, -⟩
    · have inside : r.drop k ⊆ s := fun c hc =>
        cleaned_subset s (cutScheme?_subset cut (List.mem_of_mem_drop hc))
      obtain ⟨t, h, part, host, found⟩ :=
        host_of_afterSlashes (scheme_afterSlashes read ▸ isWeb_iff.1 web) read
      intro k hk
      rw [found] at hk
      cases hk
      exact Host.isOwn_of_ascii host
        (fun c hc => of_decide_eq_true (List.all_eq_true.1 ascii c (inside (part hc))))
        fun sign => clean (inside (part sign))
    · cases none
  · cases read

end Spelt

end SiteWalk.Url

namespace SiteWalk.Link

variable {raw : String} {u : Url}

/-! ## Seeds -/

theorem parse_of_seed? (read : seed? raw = .ok u) :
    u.isWeb = true ∧ ∃ v, Url.parse (Text.trim raw.toList) = .ok v ∧ v.isWeb = true ∧
      u = v.dropFragment := by
  unfold seed? at read
  split at read
  · cases read
  · next v parsed =>
    split at read
    · cases read
    · next web =>
      split at read
      · cases read
      · cases read
        have web : v.isWeb = true := by simpa using web
        exact ⟨web, v, parsed, web, rfl⟩

/-- **The address of a seed reads back**, if its host is no name or a name that is its own ASCII
form. -/
theorem parse_text_of_seed? (read : seed? raw = .ok u) (own : u.IsOwn) :
    Url.parse u.toText.toList = .ok u := by
  obtain ⟨web, v, parsed, webV, rfl⟩ := parse_of_seed? read
  rw [Url.toText, String.toList_ofList]
  exact Url.parse_text web (Url.tidy_parse parsed webV).dropFragment own

/-- A seed that is spelt in ASCII, without escapes, reads back. -/
theorem parse_text_of_ascii (read : seed? raw = .ok u)
    (ascii : Url.Domain.isAscii raw.toList = true) (clean : '%' ∉ raw.toList) :
    Url.parse u.toText.toList = .ok u := by
  refine parse_text_of_seed? read ?_
  obtain ⟨-, v, parsed, web, rfl⟩ := parse_of_seed? read
  have inside := Text.trim_subset raw.toList
  have ascii : Url.Domain.isAscii (Text.trim raw.toList) = true :=
    List.all_eq_true.2 fun c hc => List.all_eq_true.1 ascii c (inside hc)
  have own : v.IsOwn := Url.isOwn_of_ascii parsed web ascii fun sign => clean (inside sign)
  exact own

end SiteWalk.Link

import SiteWalk.Proofs.Url.Numbers
import SiteWalk.Proofs.Url.Percent

/-!
# The text of a host

A host of the network is read back from its text: a number always, and a name if it is its own
ASCII form.  The ASCII form of a name of ASCII is: it is the name in lower case.

    (∀ c ∈ s, c.toNat < 128) → toAscii? s = some t → toAscii? t = some t   (Domain.own_of_ascii)
    Networked h → h.IsOwn → ofNetwork h.text = .ok h                       (Host.ofNetwork_text)
-/

namespace SiteWalk.Url

open Text

variable {c : Char} {s : List Char}

/-! ## Names -/

namespace Domain

/-- Lower-case ASCII, where no label is marked as Punycode. -/
structure IsPlain (s : List Char) : Prop where
  allowed : ∀ c ∈ s, c.toNat < 128 ∧ isUpperAscii c = false ∧ isForbidden c = false
  unmarked : ∀ l ∈ pieces (· == '.') s, aceMark.isPrefixOf l = false

theorem lowerChar_ascii (ascii : c.toNat < 128) : (lowerChar c).toNat < 128 := by
  apply forall_char _ c ascii
  decide

theorem lower_ascii (ascii : ∀ c ∈ s, c.toNat < 128) : ∀ c ∈ lower s, c.toNat < 128 := by
  intro c hc
  obtain ⟨d, hd, rfl⟩ := List.mem_map.1 hc
  exact lowerChar_ascii (ascii d hd)

theorem mapHost?_of_ascii (ascii : ∀ c ∈ s, c.toNat < 128) :
    Unicode.mapHost? s = some (lower s) := by
  have each : s.mapM Unicode.mapHostChar? = some (s.map fun c => [lowerChar c]) := by
    refine mapM_of_forall fun c hc => ?_
    unfold Unicode.mapHostChar?
    exact if_pos (ascii c hc)
  have whole : (s.map fun c => [lowerChar c]).flatten = lower s := by
    unfold lower
    rw [← List.flatMap_def, List.map_eq_flatMap]
  have kept : (lower s).all (·.toNat < 128) = true :=
    List.all_eq_true.2 fun c hc => decide_eq_true (lower_ascii ascii c hc)
  unfold Unicode.mapHost? Unicode.compose
  rw [each, Option.map_some, whole, if_pos kept]

theorem lower_of_lower (h : ∀ c ∈ s, isUpperAscii c = false) : lower s = s := by
  unfold lower
  exact (List.map_congr_left fun c hc => lowerChar_of_not_upper (h c hc)).trans (List.map_id s)

/-- **A plain name is its own ASCII form.** -/
theorem IsPlain.toAscii?_self (plain : IsPlain s) : toAscii? s = some s := by
  have mapped : Unicode.mapHost? s = some s := by
    rw [mapHost?_of_ascii fun c hc => (plain.allowed c hc).1,
      lower_of_lower fun c hc => (plain.allowed c hc).2.1]
  have inside {l : List Char} (hl : l ∈ pieces (· == '.') s) {c : Char} (hc : c ∈ l) : c ∈ s :=
    (of_mem_pieces hl hc).1
  have each : (pieces (· == '.') s).mapM label? =
      some ((pieces (· == '.') s).map fun l => (l, l)) := by
    refine mapM_of_forall fun l hl => ?_
    have ascii : isAscii l = true :=
      List.all_eq_true.2 fun c hc => decide_eq_true (plain.allowed c (inside hl hc)).1
    have allowed : l.any isForbidden = false :=
      List.any_eq_false.2 fun c hc => Bool.eq_false_iff.1 (plain.allowed c (inside hl hc)).2.2
    unfold label?
    rw [plain.unmarked l hl, ascii, allowed]
    rfl
  have leftToRight : (pieces (· == '.') s).any isRightToLeft = false := by
    refine List.any_eq_false.2 fun l hl => Bool.eq_false_iff.1 (List.any_eq_false.2 fun c hc =>
      Bool.eq_false_iff.1 ?_)
    have ascii := (plain.allowed c (inside hl hc)).1
    rw [decide_eq_false (Nat.not_le.2 ascii)]
    exact Bool.false_and _
  unfold toAscii?
  rw [mapped, Option.bind_eq_bind, Option.bind_some, each, Option.bind_eq_bind, Option.bind_some]
  simp only [List.map_map, Function.comp_def, List.map_id']
  rw [leftToRight, Bool.false_and, join_pieces]
  rfl

theorem label?_of_ascii (ascii : ∀ c ∈ s, c.toNat < 128) {shown written : List Char}
    (read : label? s = some (shown, written)) : written = s := by
  have ascii : isAscii s = true := List.all_eq_true.2 fun c hc => decide_eq_true (ascii c hc)
  unfold label? at read
  rw [if_pos ascii] at read
  split at read
  · split at read
    · cases read
    · split at read
      · cases read
      · cases read
        rfl
  · split at read
    · cases read
    · cases read
      rfl

/-- A name of ASCII is written in lower case, and so it is its own ASCII form. -/
theorem own_of_ascii (ascii : ∀ c ∈ s, c.toNat < 128) {t : List Char} (read : toAscii? s = some t) :
    toAscii? t = some t := by
  have small := lower_ascii ascii
  have alike : toAscii? (lower s) = toAscii? s := by
    unfold toAscii?
    rw [mapHost?_of_ascii small, mapHost?_of_ascii ascii, lower_lower]
  have form : t = lower s := by
    unfold toAscii? at read
    rw [mapHost?_of_ascii ascii, Option.bind_eq_bind, Option.bind_some] at read
    obtain ⟨labels, each, read⟩ := Option.bind_eq_some_iff.1 read
    have written : labels.map Prod.snd = pieces (· == '.') (lower s) :=
      map_of_mapM each fun l hl label read =>
        label?_of_ascii (fun c hc => small c (of_mem_pieces hl hc).1) read
    dsimp only at read
    split at read
    · cases read
    · cases read
      rw [written, join_pieces]
  rw [form, alike, read, form]

end Domain

namespace Host

theorem isPlain_ipv4Text (n : Nat) : Domain.IsPlain (ipv4Text n) where
  allowed c hc := by
    rcases of_mem_ipv4Text hc with rfl | digit
    · decide
    · have small : c.toNat < 58 := Nat.lt_succ_of_le (of_decide_eq_true
        (Bool.and_eq_true_iff.1 digit).2)
      revert digit
      apply forall_char _ c small
      decide
  unmarked l hl := by
    rw [pieces_ipv4Text] at hl
    obtain ⟨k, -, rfl⟩ := List.mem_map.1 hl
    obtain ⟨d, r, shape, digit, -⟩ := decimal_head k
    rw [shape, Bool.eq_false_iff]
    intro ace
    obtain ⟨t, same⟩ := List.isPrefixOf_iff_prefix.1 ace
    rw [← (List.cons.inj same).1] at digit
    cases digit

/-! ## Hosts -/

/-- The host is no name, or a name that is its own ASCII form. -/
def IsOwn (h : Host) : Prop := ∀ n, h = .name n → Domain.toAscii? n = some n

/-- A host that is spelt in ASCII without escapes is its own. -/
theorem isOwn_of_ascii {h : Host} (read : ofNetwork s = .ok h) (ascii : ∀ c ∈ s, c.toNat < 128)
    (clean : '%' ∉ s) : h.IsOwn := by
  rintro n rfl
  unfold ofNetwork at read
  split at read
  · obtain ⟨gs, -, same⟩ := ipv6_of_bracketed read
    cases same
  · rw [Percent.decode_of_plain clean, ofBytes?_bytes, Option.bind_some] at read
    split at read
    · cases read
    · cases read
    · next t some_ form =>
      split at read
      · split at read <;> cases read
      · cases read
        exact Domain.own_of_ascii ascii form

theorem percent_not_mem {h : Host} (read : Networked h) : '%' ∉ h.text := by
  intro there
  have := mark_of_networked read there (by decide)
  revert this
  decide

theorem text_ne_nil {h : Host} (read : Networked h) : h.text ≠ [] := by
  cases read with
  | ipv6 _ => exact List.cons_ne_nil _ _
  | ipv4 _ => exact ipv4Text_ne_nil _
  | name _ some_ _ => exact some_

/-- What is no address in brackets is read as a name first. -/
theorem ofNetwork_of_ne_bracket (clean : '%' ∉ s) (open_ : s.head? ≠ some '[') {t : List Char}
    (ascii : Domain.toAscii? s = some t) (some_ : t ≠ []) :
    ofNetwork s =
      if endsInNumber t then
        match ipv4? t with
        | some a => .ok (.ipv4 a)
        | none => .error .invalidIpv4
      else .ok (.name t) := by
  have read : (ofBytes? (Percent.decode s)).bind Domain.toAscii? = some t := by
    rw [Percent.decode_of_plain clean, ofBytes?_bytes, Option.bind_some, ascii]
  unfold ofNetwork
  split
  · next r => exact absurd rfl open_
  · rw [read]
    cases t with
    | nil => exact absurd rfl some_
    | cons c t => rfl

/-- **A host of the network is read back from its text.** -/
theorem ofNetwork_text {h : Host} (read : Networked h) (own : h.IsOwn) :
    ofNetwork h.text = .ok h := by
  have percent := percent_not_mem read
  cases read with
  | @ipv6 _ gs read =>
    obtain ⟨eight, short⟩ := of_ipv6? read
    show bracketed (ipv6Text gs ++ [']']) = _
    unfold bracketed
    rw [List.getLast?_concat, List.dropLast_concat, ipv6?_ipv6Text eight short]
    rfl
  | @ipv4 _ n read =>
    have bracket : (ipv4Text n).head? ≠ some '[' := by
      intro first
      rcases of_mem_ipv4Text (List.mem_of_mem_head? first) with dot | digit
      · cases dot
      · cases digit
    have percent : '%' ∉ ipv4Text n := percent
    show ofNetwork (ipv4Text n) = _
    rw [ofNetwork_of_ne_bracket percent bracket (isPlain_ipv4Text n).toAscii?_self
        (ipv4Text_ne_nil n),
      endsInNumber_ipv4Text, ipv4?_ipv4Text (lt_of_ipv4? read)]
    rfl
  | @name _ t ascii some_ word =>
    have bracket : t.head? ≠ some '[' := fun first =>
      Domain.forbidden_not_mem_toAscii? (by decide) ascii (List.mem_of_mem_head? first)
    have percent : '%' ∉ t := percent
    show ofNetwork t = _
    rw [ofNetwork_of_ne_bracket percent bracket (own t rfl) some_, word]
    rfl

end Host

end SiteWalk.Url

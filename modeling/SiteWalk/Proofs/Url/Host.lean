import SiteWalk.Proofs.Text.Digits
import SiteWalk.Proofs.Text.Pieces
import SiteWalk.Proofs.Text.Search
import SiteWalk.Url.Host

/-!
# Hosts without marks

What parts an authority stands in no host that is read by the rules of the network: it is brought
back neither by way of escapes nor by way of names that are no ASCII.  Only an address in brackets
has marks of its own.

    toAscii? s = some t → isForbidden c = true → c ∉ t        (Domain.forbidden_not_mem_toAscii?)
    ofNetwork s = .ok h → Networked h                                            (Host.networked)
    Networked h → c ∈ h.text → isForbidden c = true → c = '[' ∨ c = ':' ∨ c = ']'
                                                                         (Host.mark_of_networked)
-/

namespace SiteWalk.Url

open Text

variable {c : Char}

theorem isAlnum_of_isDigit (h : isDigit c = true) : isAlnum c = true := by
  unfold isAlnum
  rw [h, Bool.or_true]

/-! ## Names that are no ASCII -/

namespace Punycode

theorem isAlnum_digit : ∀ n < 36, isAlnum (digit n) = true := by decide

theorem threshold_bounds (bias k : Nat) : 1 ≤ threshold bias k ∧ threshold bias k ≤ 26 := by
  unfold threshold
  split
  · decide
  split
  · decide
  · omega

theorem isAlnum_of_mem_number {bias k n : Nat} (h : c ∈ number bias k n) : isAlnum c = true := by
  fun_induction number bias k n with
  | case1 k n t small =>
    have := (threshold_bounds bias k).2
    rw [List.mem_singleton.1 h]
    exact isAlnum_digit n (by omega)
  | case2 k n t large ih =>
    rcases List.mem_cons.1 h with rfl | later
    · have low := threshold_bounds bias k
      have whole : base = 36 := rfl
      have rest : (n - t) % (base - t) < base - t := Nat.mod_lt _ (by omega)
      exact isAlnum_digit _ (by omega)
    · exact ih later

theorem Writer.isAlnum_pass {w : Writer} (written : c ∈ w.out → isAlnum c = true) (n : Nat)
    (label : List Nat) : c ∈ (w.pass n label).out → isAlnum c = true := by
  refine List.foldlRecOn (motive := fun w : Writer => c ∈ w.out → isAlnum c = true) label _
    written ?_
  intro w written d _
  split
  · exact written
  split
  · intro hc
    exact (List.mem_append.1 hc).elim written isAlnum_of_mem_number
  · exact written

/-- All that Punycode writes of its own are letters, digits and dashes. -/
theorem of_mem_encode {label : List Char} (h : c ∈ encode label) :
    c ∈ label ∨ c = '-' ∨ isAlnum c = true := by
  unfold encode at h
  rcases List.mem_append.1 h with plain | number
  · split at plain
    · cases plain
    · rcases List.mem_append.1 plain with plain | dash
      · exact .inl (List.mem_filter.1 plain).1
      · exact .inr (.inl (List.mem_singleton.1 dash))
  · refine .inr (.inr (List.foldlRecOn (motive := fun acc : Writer × Nat => c ∈ acc.1.out →
      isAlnum c = true) _ _ (fun none => absurd none List.not_mem_nil) ?_ number))
    intro acc written n _
    have unmoved : c ∈ Writer.out { acc.1 with
        delta := acc.1.delta + (n - acc.2) * (acc.1.placed + 1) } → isAlnum c = true := written
    exact Writer.isAlnum_pass unmoved n _

/-- A character that is placed stays in the label. -/
theorem Reader.mem_next {r r' : Reader} {c : Char} {n : Nat} (h : r.next c = some r')
    (placed : n ∈ r.label) : n ∈ r'.label := by
  unfold Reader.next at h
  obtain ⟨d, -, h⟩ := Option.bind_eq_some_iff.1 h
  dsimp only at h
  split at h
  · cases h
  split at h
  · split at h
    · cases h
    · cases h
      rw [List.mem_append, List.mem_cons]
      rw [← List.take_append_drop ((r.place + (r.value + d * r.weight)) % (r.label.length + 1))
        r.label, List.mem_append] at placed
      exact placed.imp id .inr
  · split at h
    · cases h
    · cases h
      exact placed

theorem Reader.mem_foldlM {r r' : Reader} {digits : List Char} {n : Nat}
    (h : digits.foldlM Reader.next r = some r') (placed : n ∈ r.label) : n ∈ r'.label := by
  induction digits generalizing r with
  | nil =>
    cases h
    exact placed
  | cons c digits ih =>
    rw [List.foldlM_cons] at h
    obtain ⟨r₁, first, h⟩ := Option.bind_eq_some_iff.1 h
    exact ih h (Reader.mem_next first placed)

/-- All that is read as a number is a letter or a digit. -/
theorem Reader.isAlnum_foldlM {r r' : Reader} {digits : List Char}
    (h : digits.foldlM Reader.next r = some r') : ∀ c ∈ digits, isAlnum c = true := by
  induction digits generalizing r with
  | nil => exact fun _ none => absurd none List.not_mem_nil
  | cons d digits ih =>
    rw [List.foldlM_cons] at h
    obtain ⟨r₁, first, h⟩ := Option.bind_eq_some_iff.1 h
    unfold Reader.next digitValue? at first
    obtain ⟨v, digit, -⟩ := Option.bind_eq_some_iff.1 first
    intro c hc
    rcases List.mem_cons.1 hc with rfl | later
    · unfold isAlnum
      split at digit
      · next letter => rw [letter, Bool.true_or]
      split at digit
      · next number => rw [number, Bool.or_true]
      · cases digit
    · exact ih h c later

/-- What is read in Punycode has the marks that the text has. -/
theorem mem_of_decode? {s shown : List Char} (h : decode? s = some shown) (there : c ∈ s) :
    c ∈ shown ∨ c = '-' ∨ isAlnum c = true := by
  have read (plain digits : List Char) (part : c ∈ plain ∨ c ∈ digits) (r : Reader)
      (run : digits.foldlM Reader.next { label := plain.map Char.toNat } = some r) :
      c ∈ r.label.map Char.ofNat ∨ isAlnum c = true := by
    refine part.imp (fun inPlain => ?_) (Reader.isAlnum_foldlM run c)
    rw [← Char.ofNat_toNat c]
    exact List.mem_map_of_mem (Reader.mem_foldlM run (List.mem_map_of_mem inPlain))
  unfold decode? at h
  cases cut : cutLast? '-' s with
  | none =>
    simp only [cut] at h
    obtain ⟨r, run, h⟩ := Option.bind_eq_some_iff.1 h
    split at h
    · cases h
    · cases h
      exact (read [] s (.inr there) r run).imp_right .inr
  | some parts =>
    obtain ⟨front, back⟩ := parts
    simp only [cut] at h
    split at h
    · cases h
    obtain ⟨r, run, h⟩ := Option.bind_eq_some_iff.1 h
    split at h
    · cases h
    · cases h
      rw [append_of_cutLast? cut, List.mem_append, List.mem_cons, or_left_comm] at there
      rcases there with dash | part
      · exact .inr (.inl dash)
      · exact (read front back part r run).imp_right .inr

end Punycode

/-! ## Names -/

namespace Domain

theorem ascii_of_isForbidden (bad : isForbidden c = true) : c.toNat < 128 := by
  have listed : "%#/:<>?@[\\]^|".toList.all (·.toNat < 128) = true := by decide
  unfold isForbidden at bad
  rw [Bool.or_eq_true, Bool.or_eq_true, decide_eq_true_eq, decide_eq_true_eq] at bad
  rcases bad with (low | delete) | mark
  · omega
  · omega
  · exact of_decide_eq_true (List.all_eq_true.1 listed c (List.contains_iff_mem.1 mark))

/-- No letter, digit, dash or dot is forbidden. -/
theorem of_isForbidden (bad : isForbidden c = true) :
    isAlnum c = false ∧ c ≠ '-' ∧ c ≠ '.' := by
  have small := ascii_of_isForbidden bad
  revert bad
  apply forall_char _ c small
  decide

theorem isForbidden_of_isAlnum (h : isAlnum c = true) : isForbidden c = false := by
  rw [Bool.eq_false_iff]
  intro bad
  rw [(of_isForbidden bad).1] at h
  cases h

section Forbidden

variable (bad : isForbidden c = true)
include bad

/-- What Punycode adds is not forbidden. -/
theorem not_spelt : ¬ (c = '-' ∨ isAlnum c = true) := by
  obtain ⟨other, dash, -⟩ := of_isForbidden bad
  rw [other]
  rintro (rfl | none)
  · exact dash rfl
  · cases none

theorem forbidden_not_mem_of_isLabel {s : List Char} (h : isLabel s = true) : c ∉ s := by
  intro there
  unfold isLabel at h
  split at h
  · cases there
  · rw [Bool.and_eq_true, Bool.not_eq_true', List.any_eq_false] at h
    refine h.2 c there ?_
    rw [bad, Bool.and_true, decide_eq_true_eq]
    exact ascii_of_isForbidden bad

theorem forbidden_not_mem_aceMark : c ∉ aceMark := by
  intro there
  have listed : aceMark.all (fun c => !isForbidden c) = true := by decide
  have := List.all_eq_true.1 listed c there
  rw [bad] at this
  cases this

theorem forbidden_not_mem_label? {s shown written : List Char}
    (h : label? s = some (shown, written)) : c ∉ written := by
  unfold label? at h
  split at h
  · next ace =>
    obtain ⟨rest, rfl⟩ := List.isPrefixOf_iff_prefix.1 ace
    split at h
    · cases h
    · next read =>
      split at h
      · cases h
      · next good =>
        cases h
        rw [Bool.not_eq_true, Bool.or_eq_false_iff, Bool.not_eq_false'] at good
        intro there
        have inside : c ∈ rest :=
          (List.mem_append.1 there).resolve_left (forbidden_not_mem_aceMark bad)
        rcases Punycode.mem_of_decode? read inside with label | spelt
        · exact forbidden_not_mem_of_isLabel bad good.2 label
        · exact not_spelt bad spelt
  · split at h
    · split at h
      · cases h
      · next clean =>
        cases h
        exact fun there => clean (List.any_eq_true.2 ⟨c, there, bad⟩)
    · split at h
      · next label =>
        cases h
        rw [List.mem_append, not_or]
        refine ⟨forbidden_not_mem_aceMark bad, fun there => ?_⟩
        rcases Punycode.of_mem_encode there with inside | spelt
        · exact forbidden_not_mem_of_isLabel bad label inside
        · exact not_spelt bad spelt
      · cases h

end Forbidden

/-- **No host name brings a forbidden character back.** -/
theorem forbidden_not_mem_toAscii? (bad : isForbidden c = true) {s t : List Char}
    (h : toAscii? s = some t) : c ∉ t := by
  unfold toAscii? at h
  obtain ⟨mapped, -, h⟩ := Option.bind_eq_some_iff.1 h
  obtain ⟨labels, read, h⟩ := Option.bind_eq_some_iff.1 h
  dsimp only at h
  split at h
  · cases h
  · cases h
    intro there
    rcases of_mem_join there with dot | ⟨written, member, inside⟩
    · exact (of_isForbidden bad).2.2 (List.mem_singleton.1 dot)
    · obtain ⟨label, made, rfl⟩ := List.mem_map.1 member
      obtain ⟨s, -, read⟩ := exists_of_mem_mapM read made
      exact forbidden_not_mem_label? bad read inside

end Domain

/-! ## Hosts -/

namespace Host

theorem isAlnum_hexDigit : ∀ d < 16, isAlnum (hexDigit d) = true := by decide

theorem isAlnum_of_mem_groupText {n : Nat} (h : c ∈ groupText n) : isAlnum c = true := by
  obtain ⟨d, hd, rfl⟩ := List.mem_map.1 h
  exact isAlnum_hexDigit d (lt_of_mem_toDigits (by decide) hd)

/-- Groups as they stand on one side of a gap. -/
def groupsText (gs : List Nat) : List Char := join [':'] (gs.map groupText)

theorem of_mem_groupsText {gs : List Nat} (h : c ∈ groupsText gs) : c = ':' ∨ isAlnum c = true := by
  rcases of_mem_join h with colon | ⟨t, there, inside⟩
  · exact .inl (List.mem_singleton.1 colon)
  · obtain ⟨n, -, rfl⟩ := List.mem_map.1 there
    exact .inr (isAlnum_of_mem_groupText inside)

theorem of_mem_ipv6Text {gs : List Nat} (h : c ∈ ipv6Text gs) : c = ':' ∨ isAlnum c = true := by
  unfold ipv6Text at h
  split at h
  · exact of_mem_groupsText h
  · rw [List.mem_append, List.mem_cons, List.mem_cons] at h
    rcases h with front | colon | colon | back
    · exact of_mem_groupsText front
    · exact .inl colon
    · exact .inl colon
    · exact of_mem_groupsText back

theorem of_mem_ipv4Text {n : Nat} (h : c ∈ ipv4Text n) : c = '.' ∨ isDigit c = true := by
  rcases of_mem_join h with dot | ⟨t, there, inside⟩
  · exact .inl (List.mem_singleton.1 dot)
  · obtain ⟨k, -, rfl⟩ := List.mem_map.1 there
    exact .inr (decimal_digits k c inside)

theorem ipv6_of_bracketed {s : List Char} {h : Host} (read : bracketed s = .ok h) :
    ∃ gs, ipv6? s.dropLast = some gs ∧ h = .ipv6 gs := by
  unfold bracketed at read
  split at read
  · split at read
    · next gs found =>
      cases read
      exact ⟨gs, found, rfl⟩
    · cases read
  · cases read

/-- What the rules of the network read a host as. -/
inductive Networked : Host → Prop
  | ipv6 {s : List Char} {gs : List Nat} (read : ipv6? s = some gs) : Networked (.ipv6 gs)
  | ipv4 {s : List Char} {n : Nat} (read : ipv4? s = some n) : Networked (.ipv4 n)
  | name {s t : List Char} (ascii : Domain.toAscii? s = some t) (some_ : t ≠ [])
      (word : endsInNumber t = false) : Networked (.name t)

theorem networked {s : List Char} {h : Host} (read : ofNetwork s = .ok h) : Networked h := by
  unfold ofNetwork at read
  split at read
  · obtain ⟨gs, found, rfl⟩ := ipv6_of_bracketed read
    exact .ipv6 found
  · split at read
    · cases read
    · cases read
    · next t some_ ascii =>
      obtain ⟨bytes, -, ascii⟩ := Option.bind_eq_some_iff.1 ascii
      split at read
      · split at read
        · next a found =>
          cases read
          exact .ipv4 found
        · cases read
      · next word =>
        cases read
        exact .name ascii some_ (Bool.eq_false_iff.2 word)

/-- **A host of the network holds no mark**, unless it is an address in brackets. -/
theorem allowed_of_networked {h : Host} (read : Networked h) :
    (∃ gs, h = .ipv6 gs) ∨ ∀ c ∈ h.text, Domain.isForbidden c = false := by
  cases read with
  | ipv6 read => exact .inl ⟨_, rfl⟩
  | ipv4 read =>
    refine .inr fun c hc => ?_
    rcases of_mem_ipv4Text hc with rfl | digit
    · decide
    · exact Domain.isForbidden_of_isAlnum (isAlnum_of_isDigit digit)
  | name ascii _ _ =>
    exact .inr fun c hc =>
      Bool.eq_false_iff.2 fun bad => Domain.forbidden_not_mem_toAscii? bad ascii hc

/-- No mark but brackets and colons stands in a host of the network. -/
theorem mark_of_networked {h : Host} (read : Networked h) (hc : c ∈ h.text)
    (bad : Domain.isForbidden c = true) : c = '[' ∨ c = ':' ∨ c = ']' := by
  rcases allowed_of_networked read with ⟨gs, rfl⟩ | clean
  · rcases List.mem_append.1 hc with front | close
    · rcases List.mem_cons.1 front with opening | inside
      · exact .inl opening
      · rcases of_mem_ipv6Text inside with colon | other
        · exact .inr (.inl colon)
        · rw [Domain.isForbidden_of_isAlnum other] at bad
          cases bad
    · exact .inr (.inr (List.mem_singleton.1 close))
  · rw [clean c hc] at bad
    cases bad

end Host

end SiteWalk.Url

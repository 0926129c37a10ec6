import SiteWalk.Url.Percent

/-!
# What percent encoding writes

A text in percent encoding is ASCII: what is written of a text are its ASCII characters outside
the set and the marks that bytes are written with.  A text of such characters stays as it is,
so what is written once is not written again.

    c ∈ encode set s → (c ∈ s ∧ c.toNat < 128 ∧ set c = false) ∨ c ∈ marks   (of_mem_encode)
    marks.any set = false → Plain set (encode set s)                           (plain_encode)
    Plain set s → encode set s = s                                          (encode_of_plain)
-/

namespace SiteWalk.Url.Percent

open Text

variable {set : Char → Bool} {s : List Char} {c : Char}

/-- The characters that bytes are written with. -/
def marks : List Char := "%0123456789ABCDEF".toList

theorem hexDigitUpper_mem_marks : ∀ n < 16, hexDigitUpper n ∈ marks := by decide

theorem marks_ascii : ∀ c ∈ marks, c.toNat < 128 := by
  have all : marks.all (·.toNat < 128) = true := by decide
  exact fun c hc => of_decide_eq_true (List.all_eq_true.1 all c hc)

theorem encodeByte_subset_marks (b : UInt8) : encodeByte b ⊆ marks := by
  have size : b.toNat < 256 := b.toNat_lt
  intro c hc
  simp only [encodeByte, List.mem_cons, List.not_mem_nil, or_false] at hc
  rcases hc with rfl | rfl | rfl
  · decide
  · exact hexDigitUpper_mem_marks _ (by omega)
  · exact hexDigitUpper_mem_marks _ (Nat.mod_lt _ (by decide))

theorem of_mem_encode (h : c ∈ encode set s) :
    (c ∈ s ∧ c.toNat < 128 ∧ set c = false) ∨ c ∈ marks := by
  obtain ⟨d, hd, hc⟩ := List.mem_flatMap.1 h
  split at hc
  · obtain ⟨b, -, hb⟩ := List.mem_flatMap.1 hc
    exact .inr (encodeByte_subset_marks b hb)
  · next plain =>
    rw [List.mem_singleton.1 hc]
    simp only [Bool.or_eq_true, decide_eq_true_eq, not_or, Nat.not_le, Bool.not_eq_true] at plain
    exact .inl ⟨hd, plain⟩

theorem ascii_of_mem_encode (h : c ∈ encode set s) : c.toNat < 128 := by
  rcases of_mem_encode h with ⟨-, ascii, -⟩ | mark
  · exact ascii
  · exact marks_ascii c mark

/-- The text is ASCII without a character of the set, as all that is written is. -/
def Plain (set : Char → Bool) (s : List Char) : Prop := ∀ c ∈ s, c.toNat < 128 ∧ set c = false

theorem plain_encode (marked : marks.any set = false) (s : List Char) :
    Plain set (encode set s) := by
  intro c hc
  refine ⟨ascii_of_mem_encode hc, ?_⟩
  rcases of_mem_encode hc with ⟨-, -, plain⟩ | mark
  · exact plain
  · exact Bool.eq_false_iff.2 (List.any_eq_false.1 marked c mark)

theorem encode_of_plain (plain : Plain set s) : encode set s = s := by
  induction s with
  | nil => rfl
  | cons c s ih =>
    obtain ⟨ascii, free⟩ := plain c List.mem_cons_self
    have here : ¬(c.toNat ≥ 128 || set c) = true := by simp [free, ascii]
    unfold encode at ih ⊢
    rw [List.flatMap_cons, if_neg here, ih fun d hd => plain d (List.mem_cons_of_mem c hd)]
    rfl

/-! ## Reading off what is written -/

/-- A character stays as it is, or it is written with the digits of its bytes. -/
theorem encode_cons (c : Char) (s : List Char) :
    encode set (c :: s) = c :: encode set s ∨
      ∃ b ∈ String.utf8EncodeChar c, (c.toNat < 128 → set c = true) ∧
        ∃ t, encode set (c :: s) = '%' :: hexDigitUpper (b.toNat / 16) ::
          hexDigitUpper (b.toNat % 16) :: t := by
  unfold encode
  rw [List.flatMap_cons]
  split
  · next coded =>
    obtain ⟨b, bs, bytes⟩ := List.exists_cons_of_ne_nil (@String.utf8EncodeChar_ne_nil c)
    rw [Bool.or_eq_true, decide_eq_true_eq] at coded
    rw [bytes]
    exact .inr ⟨b, List.mem_cons_self, fun ascii => coded.resolve_left (Nat.not_le.2 ascii), _, rfl⟩
  · exact .inl rfl

theorem encode_ne_nil (some_ : s ≠ []) : encode set s ≠ [] := by
  cases s with
  | nil => exact absurd rfl some_
  | cons c s =>
    rcases @encode_cons set c s with kept | ⟨b, -, -, t, coded⟩
    · rw [kept]
      exact List.cons_ne_nil _ _
    · rw [coded]
      exact List.cons_ne_nil _ _

/-- What is no percent sign is written for itself. -/
theorem of_encode_eq_cons {t : List Char} (h : encode set s = c :: t) (other : c ≠ '%') :
    ∃ r, s = c :: r ∧ encode set r = t := by
  cases s with
  | nil => cases h
  | cons d s =>
    rcases @encode_cons set d s with kept | ⟨b, -, -, r, coded⟩
    · rw [kept] at h
      cases h
      exact ⟨s, rfl, rfl⟩
    · rw [coded] at h
      exact absurd (List.cons.inj h).1.symm other

theorem hexDigitUpper_dot : ∀ n < 16, (hexDigitUpper n = '2' → n = 2) ∧
    (hexDigitUpper n = 'e' ∨ hexDigitUpper n = 'E' → n = 14) := by
  decide

/-- No escape of a dot is written for anything but itself, if dots stay as they are. -/
theorem of_encode_eq_dot {t : List Char} (dot : set '.' = false) (letter : c = 'e' ∨ c = 'E')
    (h : encode set s = '%' :: '2' :: c :: t) :
    ∃ r, s = '%' :: '2' :: c :: r ∧ encode set r = t := by
  cases s with
  | nil => cases h
  | cons d s =>
    rcases @encode_cons set d s with kept | ⟨b, byte, inSet, r, coded⟩
    · rw [kept] at h
      obtain ⟨rfl, rest⟩ := List.cons.inj h
      obtain ⟨r, rfl, behindTwo⟩ := of_encode_eq_cons rest (by decide)
      have other : c ≠ '%' := by rcases letter with rfl | rfl <;> decide
      obtain ⟨q, rfl, behind⟩ := of_encode_eq_cons behindTwo other
      exact ⟨q, rfl, behind⟩
    · have size : b.toNat < 256 := b.toNat_lt
      rw [coded] at h
      obtain ⟨-, h⟩ := List.cons.inj h
      obtain ⟨two, h⟩ := List.cons.inj h
      obtain ⟨rfl, -⟩ := List.cons.inj h
      have high := (hexDigitUpper_dot _ (by omega)).1 two
      have low := (hexDigitUpper_dot _ (Nat.mod_lt _ (by decide))).2 letter
      by_cases ascii : d.toNat < 128
      · rw [utf8EncodeChar_of_lt ascii, List.mem_singleton] at byte
        have same : b.toNat = d.toNat := by
          rw [byte, UInt8.toNat_ofNat', Nat.mod_eq_of_lt (by omega)]
        have number : d.toNat = '.'.toNat := by
          show d.toNat = 46
          omega
        rw [Char.toNat_inj.1 number, dot] at inSet
        cases inSet (by decide)
      · have := le_of_mem_utf8EncodeChar (Nat.le_of_not_lt ascii) byte
        omega

/-- A text without percent signs reads as its bytes. -/
theorem decode_of_plain (plain : '%' ∉ s) : decode s = bytes s := by
  fun_induction decode s with
  | case1 => rfl
  | case2 => exact absurd List.mem_cons_self plain
  | case3 => exact absurd List.mem_cons_self plain
  | case4 c s _ ih =>
    rw [ih fun there => plain (List.mem_cons_of_mem c there)]
    rfl

end SiteWalk.Url.Percent

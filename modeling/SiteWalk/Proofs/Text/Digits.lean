import Mathlib.Data.List.Induction
import SiteWalk.Text.Ascii

/-!
# Digits

A number is read back from its digits, which begin with a zero only if the number is zero.  What
holds of all characters below some bound can be asked of each.

    ofDigits base (toDigits base n) = n                                  (ofDigits_toDigits)
    decimal? (decimal n) = some n                                         (decimal?_decimal)
-/

namespace SiteWalk.Text

/-- What holds of each code point below a bound holds of the characters there. -/
theorem forall_char {b : Nat} {P : Char → Prop} (all : ∀ n < b, P (Char.ofNat n)) (c : Char)
    (small : c.toNat < b) : P c := by
  rw [← Char.ofNat_toNat c]
  exact all c.toNat small

/-! ## Digits in any base -/

variable {base : Nat}

theorem toDigits_spec (two : 2 ≤ base) (n : Nat) :
    (∀ d ∈ toDigits base n, d < base) ∧ ofDigits base (toDigits base n) = n ∧
      ∃ d ds, toDigits base n = d :: ds ∧ (d = 0 → n = 0 ∧ ds = []) := by
  induction n using Nat.strongRecOn with
  | ind n ih =>
    unfold toDigits
    by_cases h : 2 ≤ base ∧ base ≤ n
    · rw [dif_pos h]
      have less : n / base < n := Nat.div_lt_self (by omega) (by omega)
      obtain ⟨small, value, d, ds, hd, hz⟩ := ih (n / base) less
      refine ⟨?_, ?_, d, ds ++ [n % base], by rw [hd]; rfl, ?_⟩
      · intro x hx
        rcases List.mem_append.1 hx with hx | hx
        · exact small x hx
        · rw [List.mem_singleton.1 hx]
          exact Nat.mod_lt n (by omega)
      · unfold ofDigits at value ⊢
        rw [List.foldl_append, value]
        exact Nat.div_add_mod' n base
      · intro zero
        have none : n / base = 0 := (hz zero).1
        have some_ : 1 ≤ n / base := (Nat.one_le_div_iff (by omega)).2 h.2
        omega
    · rw [dif_neg h]
      refine ⟨?_, ?_, n, [], rfl, ?_⟩
      · intro x hx
        have := List.mem_singleton.1 hx
        omega
      · show 0 * base + n = n
        omega
      · intro zero
        exact ⟨zero, rfl⟩

theorem lt_of_mem_toDigits (two : 2 ≤ base) {n d : Nat} (h : d ∈ toDigits base n) : d < base :=
  (toDigits_spec two n).1 d h

theorem ofDigits_toDigits (two : 2 ≤ base) (n : Nat) : ofDigits base (toDigits base n) = n :=
  (toDigits_spec two n).2.1

theorem toDigits_ne_nil (base n : Nat) : toDigits base n ≠ [] := by
  unfold toDigits
  split
  · exact List.append_ne_nil_of_right_ne_nil _ (List.cons_ne_nil _ _)
  · exact List.cons_ne_nil _ _

/-- A number below a power of the base has no more digits than the power says. -/
theorem length_toDigits_le {k n : Nat} (small : n < Nat.pow base (k + 1)) :
    (toDigits base n).length ≤ k + 1 := by
  induction k generalizing n with
  | zero =>
    rw [Nat.pow_eq, Nat.zero_add, Nat.pow_one] at small
    unfold toDigits
    rw [dif_neg (by omega)]
    exact Nat.le_refl 1
  | succ k ih =>
    unfold toDigits
    split
    · have less : n / base < Nat.pow base (k + 1) :=
        Nat.div_lt_of_lt_mul (by rw [Nat.mul_comm]; exact small)
      rw [List.length_append, List.length_singleton]
      exact Nat.succ_le_succ (ih less)
    · exact Nat.succ_le_succ (Nat.zero_le _)

theorem ofDigits_concat (ds : List Nat) (d : Nat) :
    ofDigits base (ds ++ [d]) = ofDigits base ds * base + d := by
  unfold ofDigits
  rw [List.foldl_append]
  rfl

theorem ofDigits_lt {ds : List Nat} (small : ∀ d ∈ ds, d < base) :
    ofDigits base ds < Nat.pow base ds.length := by
  induction ds using List.reverseRecOn with
  | nil => exact Nat.one_pos
  | append_singleton ds d ih =>
    have front := ih fun x hx => small x (List.mem_append_left _ hx)
    have last := small d (List.mem_append_right _ (List.mem_singleton_self d))
    rw [ofDigits_concat, List.length_append, List.length_singleton]
    calc ofDigits base ds * base + d < (ofDigits base ds + 1) * base := by
          rw [Nat.add_mul]
          omega
      _ ≤ Nat.pow base ds.length * base := Nat.mul_le_mul_right base front

/-! ## Decimals -/

theorem digit_all : ∀ d < 10, isDigit (Char.ofNat (48 + d)) = true ∧
    (Char.ofNat (48 + d)).toNat - 48 = d ∧ (Char.ofNat (48 + d) = '0' → d = 0) := by
  decide

theorem decimal_digits (n : Nat) : ∀ c ∈ decimal n, isDigit c = true := by
  intro c hc
  obtain ⟨d, hd, rfl⟩ := List.mem_map.1 hc
  exact (digit_all d (lt_of_mem_toDigits (by decide) hd)).1

theorem ofDigits_decimal (n : Nat) : ofDigits 10 ((decimal n).map fun c => c.toNat - 48) = n := by
  have same : (decimal n).map (fun c => c.toNat - 48) = toDigits 10 n := by
    unfold decimal
    rw [List.map_map]
    refine (List.map_congr_left fun d hd => ?_).trans (List.map_id _)
    exact (digit_all d (lt_of_mem_toDigits (by decide) hd)).2.1
  rw [same, ofDigits_toDigits (by decide)]

/-- A number starts with a digit, and with zero only if it is zero. -/
theorem decimal_head (n : Nat) : ∃ c r, decimal n = c :: r ∧ isDigit c = true ∧
    (c = '0' → r = []) := by
  obtain ⟨small, -, d, ds, hd, hz⟩ := toDigits_spec (by decide : 2 ≤ 10) n
  have hlt : d < 10 := small d (hd ▸ List.mem_cons_self)
  obtain ⟨digit, -, zero⟩ := digit_all d hlt
  refine ⟨Char.ofNat (48 + d), ds.map fun d => Char.ofNat (48 + d), ?_, digit, ?_⟩
  · unfold decimal
    rw [hd]
    rfl
  · intro h
    rw [(hz (zero h)).2]
    rfl

theorem decimal_inj {m n : Nat} (h : decimal m = decimal n) : m = n := by
  rw [← ofDigits_decimal m, ← ofDigits_decimal n, h]

theorem decimal?_decimal (n : Nat) : decimal? (decimal n) = some n := by
  obtain ⟨c, r, h, -⟩ := decimal_head n
  have digits : (decimal n).all isDigit = true := List.all_eq_true.2 (decimal_digits n)
  have some_ : (decimal n).isEmpty = false := by rw [h]; rfl
  unfold decimal?
  rw [some_, digits, ofDigits_decimal]
  rfl

end SiteWalk.Text

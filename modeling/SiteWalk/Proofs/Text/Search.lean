import SiteWalk.Text.Ascii

/-!
# Searches

What is looked for in any case of letters is looked for in the lower-cased text.  A text whose
first character is not repeated in it cannot begin in one part and end in a next part that
begins with the same character, so an occurrence in parts lies in one of them.

    cutAtLower? p s = none ↔ ¬ p <:+: lower s                     (cutAtLower?_eq_none_iff)
    x ∉ q → x :: q <+: lower back → ¬ x :: q <:+: lower front →
      cutAtLower? (x :: q) (front ++ back) = some (front, back)         (cutAtLower?_append)
-/

namespace SiteWalk.Text

/-! ## Occurrences in parts -/

section Parts

variable {α : Type} {x : α} {q r s t : List α}

/-- What begins in the first part does not reach into a second one that begins alike. -/
theorem prefix_of_prefix_append (fresh : x ∉ q) (alike : ∀ c, t.head? = some c → c = x)
    (some_ : s ≠ []) (h : x :: q <+: s ++ t) : x :: q <+: s := by
  obtain ⟨u, hu⟩ := h
  rcases List.append_eq_append_iff.1 hu with ⟨rest, hs, -⟩ | ⟨reach, hq, ht⟩
  · exact ⟨rest, hs.symm⟩
  · cases reach with
    | nil =>
      have whole : x :: q = s := hq.trans (List.append_nil s)
      exact whole ▸ List.prefix_rfl
    | cons c reach =>
      obtain rfl : c = x := alike c (by rw [ht]; rfl)
      cases s with
      | nil => exact absurd rfl some_
      | cons d s =>
        have : c ∈ q := by
          rw [(List.cons.inj hq).2]
          simp
        exact absurd this fresh

/-- What begins with a character that the first part does not have lies in the second one. -/
theorem infix_of_infix_append (clean : x ∉ r) (h : x :: q <:+: r ++ t) : x :: q <:+: t := by
  induction r with
  | nil => exact h
  | cons c r ih =>
    rcases List.infix_cons_iff.1 h with here | later
    · obtain rfl : x = c := (List.cons_prefix_cons.1 here).1
      exact absurd List.mem_cons_self clean
    · exact ih (fun hx => clean (List.mem_cons_of_mem c hx)) later

end Parts

/-! ## Cuts before a class of characters -/

/-- A text is cut where the first part has no character of the class and the second one, if
there is one, begins with such a character. -/
theorem cutBefore_append {m : Char → Bool} {front back : List Char}
    (clean : ∀ c ∈ front, m c = false) (here : ∀ c ∈ back.head?, m c = true) :
    cutBefore m (front ++ back) = (front, back) := by
  have all : ∀ c ∈ front, (!m c) = true := by
    intro c hc
    rw [clean c hc, Bool.not_false]
  unfold cutBefore
  rw [List.takeWhile_append_of_pos all, List.dropWhile_append_of_pos all]
  cases back with
  | nil => simp
  | cons c back =>
    have ends : m c = true := here c rfl
    simp [ends]

theorem cutBefore_of_forall {m : Char → Bool} {s : List Char} (clean : ∀ c ∈ s, m c = false) :
    cutBefore m s = (s, []) := by
  have cut : cutBefore m (s ++ []) = (s, []) :=
    cutBefore_append clean fun _ none => absurd none (Option.not_mem_none _)
  rwa [List.append_nil] at cut

/-- The second part is empty or begins with a character of the class. -/
theorem head_cutBefore (m : Char → Bool) (s : List Char) :
    ∀ c ∈ (cutBefore m s).2.head?, m c = true := by
  intro c hc
  have stops := List.head?_dropWhile_not (!m ·) s
  rw [show (s.dropWhile (!m ·)).head? = some c from hc] at stops
  simpa using stops

theorem cutBefore_char {d : Char} {front : List Char} (clean : d ∉ front) (back : List Char) :
    cutBefore (· == d) (front ++ d :: back) = (front, d :: back) := by
  apply cutBefore_append
  · intro c hc
    rw [beq_eq_false_iff_ne]
    rintro rfl
    exact clean hc
  · rintro c ⟨⟩
    exact beq_self_eq_true d

theorem append_of_cutLast? {d : Char} {s front back : List Char}
    (h : cutLast? d s = some (front, back)) : s = front ++ d :: back := by
  have whole := List.takeWhile_append_dropWhile (p := (· != d)) (l := s.reverse)
  have stops := List.head?_dropWhile_not (· != d) s.reverse
  unfold cutLast? at h
  dsimp only at h
  split at h
  · cases h
  · next e front' rest =>
    cases h
    rw [rest] at whole stops
    have last : e = d := by simpa using stops
    calc s = s.reverse.reverse := (List.reverse_reverse s).symm
      _ = (s.reverse.takeWhile (· != d) ++ e :: front').reverse := by rw [whole]
      _ = _ := by simp [last]

theorem cutLast?_append {d : Char} {back : List Char} (clean : d ∉ back) (front : List Char) :
    cutLast? d (front ++ d :: back) = some (front, back) := by
  have others : ∀ c ∈ back.reverse, (c != d) = true := by
    intro c hc
    rw [bne_iff_ne]
    rintro rfl
    exact clean (List.mem_reverse.1 hc)
  have turned : (front ++ d :: back).reverse = back.reverse ++ d :: front.reverse := by simp
  unfold cutLast?
  dsimp only
  rw [turned, List.dropWhile_append_of_pos others, List.takeWhile_append_of_pos others]
  simp

theorem cutLast?_of_not_mem {d : Char} {s : List Char} (clean : d ∉ s) : cutLast? d s = none := by
  cases cut : cutLast? d s with
  | none => rfl
  | some parts =>
    rw [append_of_cutLast? cut] at clean
    exact absurd (List.mem_append_right _ List.mem_cons_self) clean

/-! ## Lower case -/

variable {p s front back : List Char} {c d : Char}

theorem lower_of_upper : ∀ n < 91, 65 ≤ n →
    isLowerAscii (Char.ofNat (n + 32)) = true ∧ isUpperAscii (Char.ofNat (n + 32)) = false := by
  decide

theorem lowerChar_of_upper (h : isUpperAscii c = true) :
    isLowerAscii (lowerChar c) = true ∧ isUpperAscii (lowerChar c) = false := by
  obtain ⟨low, high⟩ := Bool.and_eq_true_iff.1 h
  have low : 65 ≤ c.toNat := of_decide_eq_true low
  have high : c.toNat ≤ 90 := of_decide_eq_true high
  unfold lowerChar
  rw [if_pos h]
  exact lower_of_upper c.toNat (by omega) low

theorem lowerChar_of_not_upper (h : isUpperAscii c = false) : lowerChar c = c := by
  unfold lowerChar
  rw [h]
  rfl

theorem isLetter_lowerChar (h : isLetter c = true) : isLetter (lowerChar c) = true := by
  cases upper : isUpperAscii c with
  | true =>
    unfold isLetter
    rw [(lowerChar_of_upper upper).1, Bool.or_true]
  | false => rwa [lowerChar_of_not_upper upper]

theorem lowerChar_of_not_letter (h : isLetter c = false) : lowerChar c = c :=
  lowerChar_of_not_upper (Bool.or_eq_false_iff.1 h).1

theorem lowerChar_lowerChar (c : Char) : lowerChar (lowerChar c) = lowerChar c := by
  cases upper : isUpperAscii c with
  | true => exact lowerChar_of_not_upper (lowerChar_of_upper upper).2
  | false => rw [lowerChar_of_not_upper upper, lowerChar_of_not_upper upper]

/-- What is no letter is the lower case of nothing else. -/
theorem lowerChar_eq_iff (other : isLetter d = false) : lowerChar c = d ↔ c = d := by
  constructor
  · intro h
    cases letter : isLetter c with
    | true =>
      rw [← h, isLetter_lowerChar letter] at other
      cases other
    | false => rwa [lowerChar_of_not_letter letter] at h
  · rintro rfl
    exact lowerChar_of_not_letter other

@[simp] theorem lower_nil : lower [] = [] := rfl

@[simp] theorem lower_cons (c : Char) (s : List Char) : lower (c :: s) = lowerChar c :: lower s :=
  rfl

@[simp] theorem lower_append (s t : List Char) : lower (s ++ t) = lower s ++ lower t :=
  List.map_append

@[simp] theorem length_lower (s : List Char) : (lower s).length = s.length := List.length_map _

@[simp] theorem lower_lower (s : List Char) : lower (lower s) = lower s := by
  induction s with
  | nil => rfl
  | cons c s ih => rw [lower_cons, lower_cons, lowerChar_lowerChar, ih]

theorem mem_lower (other : isLetter d = false) : d ∈ lower s ↔ d ∈ s := by
  induction s with
  | nil => exact Iff.rfl
  | cons c s ih =>
    rw [lower_cons, List.mem_cons, List.mem_cons, ih, eq_comm, lowerChar_eq_iff other, eq_comm]

/-! ## Searches in any case -/

/-- The text is the word, in any case of letters. -/
def Reads (word : String) (s : List Char) : Prop := lower s = word.toList

/-- The word does not occur in the text in any case of letters. -/
def Lacks (word : String) (s : List Char) : Prop := ¬ word.toList <:+: lower s

instance (word : String) (s : List Char) : Decidable (Reads word s) :=
  inferInstanceAs (Decidable (_ = _))

instance (word : String) (s : List Char) : Decidable (Lacks word s) :=
  inferInstanceAs (Decidable (¬ _))

theorem startsWithLower_iff : startsWithLower p s = true ↔ p <+: lower s := by
  have cut : lower (s.take p.length) = (lower s).take p.length := List.map_take
  unfold startsWithLower
  rw [cut, beq_iff_eq, List.prefix_iff_eq_take]
  exact eq_comm

/-- A text that starts with a word is not shorter. -/
theorem length_of_startsWithLower (h : startsWithLower p s = true) : p.length ≤ s.length := by
  have inside := (startsWithLower_iff.1 h).length_le
  rwa [length_lower] at inside

theorem Lacks.of_cons {word : String} (h : Lacks word (c :: s)) : Lacks word s :=
  fun has => h (has.trans (List.suffix_cons _ _).isInfix)

theorem append_of_cutAtLower? (h : cutAtLower? p s = some (front, back)) : s = front ++ back := by
  induction s generalizing front back with
  | nil => cases h
  | cons c s ih =>
    unfold cutAtLower? at h
    split at h
    · cases h
      rfl
    · obtain ⟨⟨front', back'⟩, cut, e⟩ := Option.map_eq_some_iff.1 h
      cases e
      rw [ih cut]
      rfl

theorem cutAtLower?_eq_none_iff (some_ : p ≠ []) :
    cutAtLower? p s = none ↔ ¬ p <:+: lower s := by
  induction s with
  | nil =>
    rw [lower_nil, List.infix_nil]
    exact ⟨fun _ => some_, fun _ => rfl⟩
  | cons c s ih =>
    unfold cutAtLower?
    rw [lower_cons, List.infix_cons_iff, ← lower_cons, ← startsWithLower_iff, not_or, ← ih]
    by_cases here : startsWithLower p (c :: s) = true <;> simp [here]

theorem not_startsWithLower {x : Char} {q : List Char} (fresh : x ∉ q) (some_ : front ≠ [])
    (absent : ¬ x :: q <:+: lower front) (alike : ∀ c, (lower back).head? = some c → c = x) :
    ¬ startsWithLower (x :: q) (front ++ back) = true := by
  rw [startsWithLower_iff, lower_append]
  intro now
  have full : lower front ≠ [] := by simpa [lower] using some_
  exact absent (prefix_of_prefix_append fresh alike full now).isInfix

theorem cutAtLower?_append {x : Char} {q : List Char} (fresh : x ∉ q)
    (here : x :: q <+: lower back) (absent : ¬ x :: q <:+: lower front) :
    cutAtLower? (x :: q) (front ++ back) = some (front, back) := by
  induction front with
  | nil =>
    cases back with
    | nil => exact absurd (List.prefix_nil.1 here) (List.cons_ne_nil x q)
    | cons c back =>
      show (if startsWithLower (x :: q) (c :: back) then _ else _) = _
      rw [if_pos (startsWithLower_iff.2 here)]
  | cons c front ih =>
    have alike : ∀ d, (lower back).head? = some d → d = x := by
      intro d hd
      obtain ⟨u, hu⟩ := here
      rw [← hu] at hd
      exact (Option.some.inj hd).symm
    have later := not_startsWithLower fresh (List.cons_ne_nil c front) absent alike
    have none : ¬ x :: q <:+: lower front := fun h =>
      absent (h.trans (List.suffix_cons _ _).isInfix)
    rw [List.cons_append] at later ⊢
    rw [cutAtLower?, if_neg later, ih none]
    rfl

theorem prefix_of_beforeLastLower? (h : beforeLastLower? p s = some front) : front <+: s := by
  induction s generalizing front with
  | nil => cases h
  | cons c s ih =>
    unfold beforeLastLower? at h
    split at h
    · next front' cut =>
      cases h
      exact List.cons_prefix_cons.2 ⟨rfl, ih cut⟩
    · split at h
      · cases h
        exact List.nil_prefix
      · cases h

theorem beforeLastLower?_eq_none_iff (some_ : p ≠ []) :
    beforeLastLower? p s = none ↔ ¬ p <:+: lower s := by
  induction s with
  | nil =>
    rw [lower_nil, List.infix_nil]
    exact ⟨fun _ => some_, fun _ => rfl⟩
  | cons c s ih =>
    unfold beforeLastLower?
    rw [lower_cons, List.infix_cons_iff, ← lower_cons, ← startsWithLower_iff, not_or, ← ih]
    by_cases here : startsWithLower p (c :: s) = true <;>
      cases beforeLastLower? p s <;> simp [here]

theorem beforeLastLower?_append {c : Char} (some_ : p ≠ []) (here : p <+: lower (c :: back))
    (absent : ¬ p <:+: lower back) : beforeLastLower? p (front ++ c :: back) = some front := by
  induction front with
  | nil =>
    rw [List.nil_append, beforeLastLower?, (beforeLastLower?_eq_none_iff some_).2 absent]
    exact if_pos (startsWithLower_iff.2 here)
  | cons d front ih =>
    rw [List.cons_append, beforeLastLower?, ih]

end SiteWalk.Text

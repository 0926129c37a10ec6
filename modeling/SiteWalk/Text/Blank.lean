/-!
# Blanks

White space is the Unicode property `White_Space`: tabs and line ends, the
space, the no-break spaces and the typographic spaces.  Trimming, cutting at
separators and collapsing all use this one class.

    trim (trim s) = trim s
    collapse s has no blank at either end and never two in a row
-/

namespace SiteWalk.Text

/-! ## Classes of characters -/

/-- The property `White_Space`. -/
def isBlank (c : Char) : Bool :=
  let n := c.toNat
  (9 ≤ n && n ≤ 13) || n == 32 || n == 0x85 || n == 0xA0 || n == 0x1680 ||
    (0x2000 ≤ n && n ≤ 0x200A) || n == 0x2028 || n == 0x2029 || n == 0x202F ||
    n == 0x205F || n == 0x3000

/-- The general category `Cc`. -/
def isControl (c : Char) : Bool :=
  let n := c.toNat
  n < 32 || (127 ≤ n && n < 160)

/-! ## Cutting -/

def trimLeft (s : List Char) : List Char := s.dropWhile isBlank

def trimRight (s : List Char) : List Char := (s.reverse.dropWhile isBlank).reverse

/-- `s` without the blanks at its two ends. -/
def trim (s : List Char) : List Char := trimRight (trimLeft s)

/-- The pieces between the separators; `n` separators make `n + 1` pieces. -/
def pieces (sep : Char → Bool) : List Char → List (List Char)
  | [] => [[]]
  | c :: r =>
    match sep c, pieces sep r with
    | true, ps => [] :: ps
    | false, p :: ps => (c :: p) :: ps
    | false, [] => [[c]]

/-- The maximal runs of characters that are not blank. -/
def words (s : List Char) : List (List Char) := (pieces isBlank s).filter (!·.isEmpty)

/-- `ps` with `sep` between neighbours. -/
def join (sep : List Char) : List (List Char) → List Char
  | [] => []
  | [p] => p
  | p :: ps => p ++ sep ++ join sep ps

/-- The words of `s` with one space between neighbours; a word of control
characters alone does not count. -/
def collapse (s : List Char) : List Char :=
  join [' '] ((words s).filter fun w => !w.all isControl)

/-! ## Strings -/

/-- `s` without the blanks at its two ends. -/
def trimmed (s : String) : String := String.ofList (trim s.toList)

/-- The string holds nothing but blanks. -/
def isBlankString (s : String) : Bool := s.toList.all isBlank

/-- The lines of `s`: cut at line feeds, one carriage return before a line feed
dropped, and no empty line after a final line feed. -/
def lines (s : List Char) : List (List Char) :=
  let ps := pieces (· == '\n') s
  let body := (ps.dropLast.map fun p => if p.getLast? == some '\r' then p.dropLast else p)
  match ps.getLast? with
  | some [] => body
  | some p => body ++ [p]
  | none => body

/-! ## Lemmas -/

theorem pieces_ne_nil (sep : Char → Bool) (s : List Char) : pieces sep s ≠ [] := by
  cases s with
  | nil => simp [pieces]
  | cons c r =>
    rw [pieces]
    split <;> simp_all

theorem pieces_cons_sep {sep : Char → Bool} {c : Char} (h : sep c = true) (r : List Char) :
    pieces sep (c :: r) = [] :: pieces sep r := by
  rw [pieces, h]

/-- The pieces are what is between the separators. -/
theorem flatten_pieces (sep : Char → Bool) (s : List Char) :
    (pieces sep s).flatten = s.filter (!sep ·) := by
  induction s with
  | nil => rfl
  | cons c r ih =>
    cases h : sep c with
    | true =>
      rw [pieces_cons_sep h, List.flatten_cons, ih, List.filter_cons_of_neg (by simp [h])]
      rfl
    | false =>
      rw [List.filter_cons_of_pos (by simp [h]), ← ih, pieces, h]
      cases pieces sep r <;> rfl

theorem flatten_words (s : List Char) : (words s).flatten = s.filter (!isBlank ·) := by
  rw [words, List.flatten_filter_not_isEmpty, flatten_pieces]

theorem join_eq_nil {sep : List Char} {ps : List (List Char)} (h : ∀ p ∈ ps, p ≠ []) :
    join sep ps = [] ↔ ps = [] := by
  cases ps with
  | nil => exact ⟨fun _ => rfl, fun _ => rfl⟩
  | cons p ps =>
    have := h p List.mem_cons_self
    cases ps <;> simp [join, this]

/-- Nothing is left of a text without characters that count. -/
theorem collapse_eq_nil_iff {s : List Char} :
    collapse s = [] ↔ ∀ c ∈ s, isBlank c = true ∨ isControl c = true := by
  have nonempty : ∀ w ∈ (words s).filter fun w => !w.all isControl, w ≠ [] := by
    intro w hw
    simpa using (List.mem_filter.1 (List.mem_filter.1 hw).1).2
  rw [collapse, join_eq_nil nonempty, List.filter_eq_nil_iff]
  calc (∀ w ∈ words s, ¬(!w.all isControl) = true)
      ↔ ∀ c ∈ (words s).flatten, isControl c = true := by
        simp only [Bool.not_eq_true', Bool.not_eq_false, List.all_eq_true, List.mem_flatten]
        exact ⟨fun h c ⟨w, hw, hc⟩ => h w hw c hc, fun h w hw c hc => h c ⟨w, hw, hc⟩⟩
    _ ↔ ∀ c ∈ s, isBlank c = true ∨ isControl c = true := by
        rw [flatten_words]
        simp only [List.mem_filter, and_imp]
        refine forall₂_congr fun c _ => ?_
        cases isBlank c <;> simp

end SiteWalk.Text

import Mathlib.Data.List.TakeWhile
import SiteWalk.Text.Blank

/-!
# Pieces

Cutting at separators is that of the library, and so is joining.  A piece has no separator in
it, and pieces without separators are found again between them.  Blanks around a text make no
difference to what is left of it when it is trimmed, and nothing else is taken off.

    pieces sep s = s.splitOnP sep                                       (pieces_eq_splitOnP)
    join sep ps = sep.intercalate ps                                    (join_eq_intercalate)
    trim (a ++ s ++ b) = trim s, for blanks a and b                             (trim_around)
-/

namespace SiteWalk.Text

variable {sep : Char → Bool} {c : Char} {s p : List Char}

theorem pieces_eq_splitOnP (sep : Char → Bool) (s : List Char) : pieces sep s = s.splitOnP sep := by
  induction s with
  | nil => rfl
  | cons c s ih =>
    rw [List.splitOnP_cons_eq_if_modifyHead, ← ih, pieces]
    cases sep c with
    | true => rfl
    | false =>
      cases rest : pieces sep s with
      | nil => exact absurd rest (pieces_ne_nil sep s)
      | cons p ps => rfl

theorem pieces_of_clean (clean : ∀ c ∈ s, sep c = false) : pieces sep s = [s] := by
  rw [pieces_eq_splitOnP, List.splitOnP_eq_singleton clean]

theorem pieces_congr {sep' : Char → Bool} (same : ∀ c ∈ s, sep c = sep' c) :
    pieces sep s = pieces sep' s := by
  induction s with
  | nil => rfl
  | cons c s ih =>
    unfold pieces
    rw [same c List.mem_cons_self, ih fun d hd => same d (List.mem_cons_of_mem c hd)]

/-- No piece reaches over a separator. -/
theorem pieces_append_sep (here : sep c = true) (s t : List Char) :
    pieces sep (s ++ c :: t) = pieces sep s ++ pieces sep t := by
  simp only [pieces_eq_splitOnP]
  exact List.splitOnP_append_cons s t here

theorem pieces_append (clean : ∀ c ∈ p, sep c = false) (here : sep c = true) (s : List Char) :
    pieces sep (p ++ c :: s) = p :: pieces sep s := by
  rw [pieces_append_sep here, pieces_of_clean clean, List.singleton_append]

/-- A text is one piece, or a piece with a separator and another text behind it. -/
theorem piecewise (sep : Char → Bool) {motive : List Char → Prop}
    (piece : ∀ p, (∀ c ∈ p, sep c = false) → motive p)
    (parted : ∀ p c s, (∀ c ∈ p, sep c = false) → sep c = true → motive s → motive (p ++ c :: s))
    (s : List Char) : motive s := by
  -- the induction runs over what is behind a piece that is read so far
  suffices more : ∀ p, (∀ c ∈ p, sep c = false) → motive (p ++ s) from
    more [] (List.forall_mem_nil _)
  induction s with
  | nil =>
    intro p clean
    rw [List.append_nil]
    exact piece p clean
  | cons c s ih =>
    intro p clean
    cases here : sep c with
    | true => exact parted p c s clean here (ih [] (List.forall_mem_nil _))
    | false =>
      rw [List.append_cons]
      exact ih _ (List.forall_mem_append.2 ⟨clean, List.forall_mem_singleton.2 here⟩)

theorem of_mem_pieces (piece : p ∈ pieces sep s) (inside : c ∈ p) : c ∈ s ∧ sep c = false := by
  have kept : c ∈ (pieces sep s).flatten := List.mem_flatten.2 ⟨p, piece, inside⟩
  rw [flatten_pieces, List.mem_filter] at kept
  simpa using kept

theorem join_eq_intercalate (sep : List Char) (ps : List (List Char)) :
    join sep ps = sep.intercalate ps := by
  fun_induction join sep ps with
  | case1 => rfl
  | case2 p => simp
  | case3 p ps some_ ih =>
    cases ps with
    | nil => exact absurd rfl some_
    | cons q ps => rw [List.intercalate_cons_cons, ih, List.append_assoc]

/-- Texts without the character that joins them are found again. -/
theorem pieces_join {ps : List (List Char)} (clean : ∀ p ∈ ps, c ∉ p) (some_ : ps ≠ []) :
    pieces (· == c) (join [c] ps) = ps := by
  rw [pieces_eq_splitOnP, join_eq_intercalate]
  exact List.splitOn_intercalate c clean some_

/-- What is in a joined text is in one of its parts or stands between them. -/
theorem of_mem_join {sep : List Char} {ps : List (List Char)} (h : c ∈ join sep ps) :
    c ∈ sep ∨ ∃ p ∈ ps, c ∈ p := by
  fun_induction join sep ps with
  | case1 => cases h
  | case2 p => exact .inr ⟨p, List.mem_singleton_self p, h⟩
  | case3 p ps _ ih =>
    rcases List.mem_append.1 h with first | later
    · rcases List.mem_append.1 first with inside | between
      · exact .inr ⟨p, List.mem_cons_self, inside⟩
      · exact .inl between
    · rcases ih later with between | ⟨q, hq, inside⟩
      · exact .inl between
      · exact .inr ⟨q, List.mem_cons_of_mem p hq, inside⟩

theorem join_pieces (c : Char) (s : List Char) : join [c] (pieces (· == c) s) = s := by
  rw [pieces_eq_splitOnP, join_eq_intercalate]
  exact List.intercalate_splitOn c

/-! ## Parts that are read one by one -/

section Parts

variable {α β : Type} {f : α → Option β} {xs : List α} {ys : List β}

theorem mapM_of_forall {g : α → β} (h : ∀ x ∈ xs, f x = some (g x)) :
    xs.mapM f = some (xs.map g) := by
  induction xs with
  | nil => rfl
  | cons x xs ih =>
    rw [List.mapM_cons, h x List.mem_cons_self, ih fun y hy => h y (List.mem_cons_of_mem x hy)]
    rfl

/-- What is written of each member is read back. -/
theorem mapM_map_of_forall {write : β → α} (h : ∀ y ∈ ys, f (write y) = some y) :
    (ys.map write).mapM f = some ys := by
  rw [List.mapM_map]
  exact (mapM_of_forall h).trans (congrArg some (List.map_id ys))

/-- What is read of all members of a list is read of one of them. -/
theorem exists_of_mem_mapM {y : β} (read : xs.mapM f = some ys) (there : y ∈ ys) :
    ∃ x ∈ xs, f x = some y := by
  induction xs generalizing ys with
  | nil =>
    cases read
    cases there
  | cons x xs ih =>
    rw [List.mapM_cons] at read
    obtain ⟨z, first, read⟩ := Option.bind_eq_some_iff.1 read
    obtain ⟨zs, rest, read⟩ := Option.bind_eq_some_iff.1 read
    cases read
    rcases List.mem_cons.1 there with rfl | later
    · exact ⟨x, List.mem_cons_self, first⟩
    · obtain ⟨w, hw, hy⟩ := ih rest later
      exact ⟨w, List.mem_cons_of_mem x hw, hy⟩

/-- What says of each member what it was read of says so of all. -/
theorem map_of_mapM {back : β → α} (read : xs.mapM f = some ys)
    (each : ∀ x ∈ xs, ∀ y, f x = some y → back y = x) : ys.map back = xs := by
  induction xs generalizing ys with
  | nil =>
    cases read
    rfl
  | cons x xs ih =>
    rw [List.mapM_cons] at read
    obtain ⟨z, first, read⟩ := Option.bind_eq_some_iff.1 read
    obtain ⟨zs, rest, read⟩ := Option.bind_eq_some_iff.1 read
    cases read
    rw [List.map_cons, each x List.mem_cons_self z first,
      ih rest fun w hw => each w (List.mem_cons_of_mem x hw)]

theorem length_of_mapM (read : xs.mapM f = some ys) : ys.length = xs.length := by
  induction xs generalizing ys with
  | nil =>
    cases read
    rfl
  | cons x xs ih =>
    rw [List.mapM_cons] at read
    obtain ⟨z, -, read⟩ := Option.bind_eq_some_iff.1 read
    obtain ⟨zs, rest, read⟩ := Option.bind_eq_some_iff.1 read
    cases read
    rw [List.length_cons, List.length_cons, ih rest]

end Parts

/-! ## Ends -/

/-- Nothing is dropped from the ends of a text that has no such character. -/
theorem dropEnds_of_forall {m : Char → Bool} (outside : ∀ c ∈ s, m c = false) :
    ((s.dropWhile m).reverse.dropWhile m).reverse = s := by
  have keep {t : List Char} (outside : ∀ c ∈ t, m c = false) : t.dropWhile m = t := by
    cases t with
    | nil => rfl
    | cons c t => exact List.dropWhile_cons_of_neg (by simp [outside])
  rw [keep outside, keep (by simpa using outside), List.reverse_reverse]

/-- A text without blanks is not trimmed. -/
theorem trim_of_forall (solid : ∀ c ∈ s, isBlank c = false) : trim s = s :=
  dropEnds_of_forall solid

theorem trimLeft_append {s t : List Char} (h : trimLeft s ≠ []) :
    trimLeft (s ++ t) = trimLeft s ++ t := by
  unfold trimLeft at h ⊢
  rw [List.dropWhile_append, if_neg (by simpa using h)]

section Around

variable {a b : List Char}

theorem trim_of_blank (blank : ∀ c ∈ s, isBlank c = true) : trim s = [] := by
  have nothing : trimLeft s = [] := List.dropWhile_eq_nil_iff.2 blank
  rw [trim, nothing]
  rfl

theorem trim_blank_append (before : ∀ c ∈ a, isBlank c = true) (s : List Char) :
    trim (a ++ s) = trim s := by
  unfold trim trimLeft
  rw [List.dropWhile_append_of_pos before]

theorem trim_append_blank (behind : ∀ c ∈ b, isBlank c = true) (s : List Char) :
    trim (s ++ b) = trim s := by
  by_cases nothing : trimLeft s = []
  · have blank := List.dropWhile_eq_nil_iff.1 nothing
    rw [trim_of_blank blank, trim_of_blank (List.forall_mem_append.2 ⟨blank, behind⟩)]
  · have behind : ∀ c ∈ b.reverse, isBlank c = true := by simpa using behind
    unfold trim
    rw [trimLeft_append nothing]
    unfold trimRight
    rw [List.reverse_append, List.dropWhile_append_of_pos behind]

/-- Blanks around a text are trimmed. -/
theorem trim_around (before : ∀ c ∈ a, isBlank c = true) (behind : ∀ c ∈ b, isBlank c = true)
    (s : List Char) : trim (a ++ s ++ b) = trim s := by
  rw [trim_append_blank behind, trim_blank_append before]

/-- Only blanks are trimmed. -/
theorem exists_around_trim (s : List Char) : ∃ a b, (∀ c ∈ a, isBlank c = true) ∧
    (∀ c ∈ b, isBlank c = true) ∧ s = a ++ trim s ++ b := by
  have blanks (t : List Char) : ∀ c ∈ t.takeWhile isBlank, isBlank c = true :=
    fun _ hc => List.mem_takeWhile_imp hc
  refine ⟨s.takeWhile isBlank, ((trimLeft s).reverse.takeWhile isBlank).reverse, blanks s,
    fun c hc => blanks _ c (List.mem_reverse.1 hc), ?_⟩
  calc s = s.takeWhile isBlank ++ trimLeft s := List.takeWhile_append_dropWhile.symm
    _ = s.takeWhile isBlank ++ (trimLeft s).reverse.reverse := by rw [List.reverse_reverse]
    _ = s.takeWhile isBlank ++ ((trimLeft s).reverse.takeWhile isBlank ++
          (trimLeft s).reverse.dropWhile isBlank).reverse := by
        rw [List.takeWhile_append_dropWhile]
    _ = _ := by
        rw [List.reverse_append, ← List.append_assoc]
        rfl

theorem trim_subset (s : List Char) : trim s ⊆ s := by
  obtain ⟨a, b, -, -, whole⟩ := exists_around_trim s
  intro c hc
  rw [whole]
  exact List.mem_append_left _ (List.mem_append_right _ hc)

@[simp] theorem trim_trim (s : List Char) : trim (trim s) = trim s := by
  obtain ⟨a, b, before, behind, whole⟩ := exists_around_trim s
  calc trim (trim s) = trim (a ++ trim s ++ b) := (trim_around before behind _).symm
    _ = trim s := by rw [← whole]

end Around

end SiteWalk.Text

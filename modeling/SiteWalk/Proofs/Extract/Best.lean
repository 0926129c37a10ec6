import SiteWalk.Extract.Readable

/-!
# The best block

A running maximum that only gives way to a higher score ends at the first block of the highest
score.  A block scores exactly if it has text.

    best ps = some x  ↔  x scores, those before it less, those after it no more
    best ps = none    ↔  no block of ps has text
-/

namespace SiteWalk.Extract

open Text Html

/-- The block is the first of the highest score, and it scores. -/
def Leads (ps : List Forest.Place) (x : Forest.Place) : Prop :=
  ∃ front back, ps = front ++ x :: back ∧ 0 < score x ∧
    (∀ y ∈ front, score y < score x) ∧ ∀ y ∈ back, score y ≤ score x

variable {ps : List Forest.Place} {x y : Forest.Place}

namespace Leads

theorem mem (h : Leads ps x) : x ∈ ps := by
  obtain ⟨front, back, rfl, -⟩ := h
  exact List.mem_append_right _ List.mem_cons_self

theorem pos (h : Leads ps x) : 0 < score x := by
  obtain ⟨_, _, -, pos, -⟩ := h
  exact pos

theorem le (h : Leads ps x) (hy : y ∈ ps) : score y ≤ score x := by
  obtain ⟨front, back, rfl, -, before, after⟩ := h
  rcases List.mem_append.1 hy with hy | hy
  · exact Int.le_of_lt (before y hy)
  · rcases List.mem_cons.1 hy with rfl | hy
    · exact Int.le_refl _
    · exact after y hy

/-- A later block that scores no more changes nothing. -/
theorem more (h : Leads ps x) (hy : score y ≤ score x) : Leads (ps ++ [y]) x := by
  obtain ⟨front, back, rfl, pos, before, after⟩ := h
  refine ⟨front, back ++ [y], by simp, pos, before, fun z hz => ?_⟩
  rcases List.mem_append.1 hz with hz | hz
  · exact after z hz
  · exact List.mem_singleton.1 hz ▸ hy

/-- Blocks that are left out take no lead. -/
theorem filter {p : Forest.Place → Bool} (h : Leads ps x) (hx : p x = true) :
    Leads (ps.filter p) x := by
  obtain ⟨front, back, rfl, pos, before, after⟩ := h
  refine ⟨front.filter p, back.filter p, ?_, pos, fun y hy => before y (List.mem_filter.1 hy).1,
    fun y hy => after y (List.mem_filter.1 hy).1⟩
  rw [List.filter_append, List.filter_cons_of_pos hx]

/-- Only one block is the first of the highest score. -/
theorem unique (h : Leads ps x) (h' : Leads ps y) : x = y := by
  obtain ⟨front, back, rfl, -, before, after⟩ := h
  obtain ⟨front', back', same, -, before', after'⟩ := h'
  rcases List.append_eq_append_iff.1 same with ⟨between, rfl, rest⟩ | ⟨between, rfl, rest⟩
  · cases between with
    | nil => exact (List.cons.inj rest).1
    | cons z between =>
      obtain ⟨rfl, rfl⟩ := List.cons.inj rest
      have less := before' x (List.mem_append_right _ List.mem_cons_self)
      have most := after y (List.mem_append_right _ List.mem_cons_self)
      omega
  · cases between with
    | nil => exact (List.cons.inj rest).1.symm
    | cons z between =>
      obtain ⟨rfl, rfl⟩ := List.cons.inj rest
      have less := before y (List.mem_append_right _ List.mem_cons_self)
      have most := after' x (List.mem_append_right _ List.mem_cons_self)
      omega

end Leads

/-! ## The running maximum -/

/-- What the running maximum has kept of the blocks that it has seen. -/
def Kept (ps : List Forest.Place) : Option (Int × Forest.Place) → Prop
  | none => ∀ y ∈ ps, score y ≤ 0
  | some (top, x) => top = score x ∧ Leads ps x

/-- One more block. -/
theorem kept_better {o : Option (Int × Forest.Place)} (h : Kept ps o) (y : Forest.Place) :
    Kept (ps ++ [y]) (better o y) := by
  cases o with
  | none =>
    by_cases pos : 0 < score y
    · have step : better none y = some (score y, y) := by simp [better, pos]
      rw [step]
      exact ⟨rfl, ps, [], rfl, pos, fun z hz => Int.lt_of_le_of_lt (h z hz) pos,
        List.forall_mem_nil _⟩
    · have step : better none y = none := by simp [better, pos]
      rw [step]
      exact List.forall_mem_append.2 ⟨h, by simpa using pos⟩
  | some kept =>
    obtain ⟨top, x⟩ := kept
    obtain ⟨rfl, h⟩ := h
    by_cases beats : score x < score y
    · have pos : 0 < score y := Int.lt_trans h.pos beats
      have step : better (some (score x, x)) y = some (score y, y) := by simp [better, pos, beats]
      rw [step]
      exact ⟨rfl, ps, [], rfl, pos, fun z hz => Int.lt_of_le_of_lt (h.le hz) beats,
        List.forall_mem_nil _⟩
    · have step : better (some (score x, x)) y = some (score x, x) := by simp [better, beats]
      rw [step]
      exact ⟨rfl, h.more (Int.not_lt.1 beats)⟩

/-- All blocks. -/
theorem kept_foldl {o : Option (Int × Forest.Place)} (h : Kept ps o) (qs : List Forest.Place) :
    Kept (ps ++ qs) (qs.foldl better o) := by
  induction qs generalizing ps o with
  | nil => rwa [List.append_nil]
  | cons y qs ih =>
    have := ih (kept_better h y)
    rwa [List.append_assoc] at this

theorem kept_best (ps : List Forest.Place) : Kept ps (ps.foldl better none) := by
  have start : Kept [] none := List.forall_mem_nil _
  exact kept_foldl start ps

theorem best_eq_none_iff_score : best ps = none ↔ ∀ y ∈ ps, score y ≤ 0 := by
  have kept := kept_best ps
  unfold best
  cases top : ps.foldl better none with
  | none =>
    rw [top] at kept
    exact ⟨fun _ => kept, fun _ => rfl⟩
  | some top' =>
    rw [top] at kept
    refine ⟨fun absent => (by cases absent), fun low => ?_⟩
    have := low _ kept.2.mem
    have := kept.2.pos
    omega

/-- The block that is chosen is the first of the highest score. -/
theorem best_eq_some_iff : best ps = some x ↔ Leads ps x := by
  have kept := kept_best ps
  unfold best
  cases top : ps.foldl better none with
  | none =>
    rw [top] at kept
    refine ⟨fun absent => (by cases absent), fun lead => ?_⟩
    have := kept x lead.mem
    have := lead.pos
    omega
  | some top' =>
    rw [top] at kept
    exact ⟨fun same => Option.some.inj same ▸ kept.2,
      fun lead => congrArg some (kept.2.unique lead)⟩

/-- What is chosen of all blocks is chosen of some of them exactly if it is among these. -/
theorem best_filter {p : Forest.Place → Bool} (h : best ps = some x) :
    p x = true ↔ best (ps.filter p) = some x := by
  refine ⟨fun hx => best_eq_some_iff.2 ((best_eq_some_iff.1 h).filter hx), fun hx => ?_⟩
  exact (List.mem_filter.1 (best_eq_some_iff.1 hx).mem).2

/-! ## Text -/

/-- A block scores exactly if it has text. -/
theorem score_pos_iff : 0 < score x ↔ collapse x.kids.text ≠ [] := by
  unfold score textLength
  split
  · rename_i blank
    simp [List.length_eq_zero_iff.1 blank]
  · rename_i text
    have : collapse x.kids.text ≠ [] := fun blank => text (by rw [blank]; rfl)
    simp only [this, ne_eq, not_false_eq_true, iff_true]
    omega

theorem best_eq_none_iff : best ps = none ↔ ∀ y ∈ ps, collapse y.kids.text = [] := by
  rw [best_eq_none_iff_score]
  refine forall₂_congr fun y _ => ?_
  rw [← Int.not_lt, score_pos_iff, ne_eq, Decidable.not_not]

end SiteWalk.Extract

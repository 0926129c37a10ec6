import SiteWalk.Output.Markdown
import SiteWalk.Proofs.Text.Pieces

/-!
# Pages in fenced blocks

A document is read line by line: outside of blocks a line that is `fenceOpen` opens one, and the
next line that is `fenceClose` closes it.  In the document of a report every page is read as if it
stood alone, and it is read as its text unless a line of the text closes the block, or a line of
the address opens one before it.

    blocks (markdown r .content) = r.contents.flatMap fun u => blocks (fenced u)
                                                                           (blocks_markdown)
    blocks (fenced u) = [ended u.text.toList] ↔ Contained u            (blocks_fenced_eq_iff)
-/

namespace SiteWalk.Output

open Crawl Text

/-! ## Lines -/

/-- The lines of a text: what is between its line feeds. -/
def linesOf (s : List Char) : List (List Char) := pieces (· == '\n') s

/-- Lines with their line feeds. -/
def joinLines (ls : List (List Char)) : List Char := ls.flatMap fun l => l ++ ['\n']

section Lines

variable {s t l : List Char} {ls ms : List (List Char)}

theorem linesOf_append (s t : List Char) : linesOf (s ++ '\n' :: t) = linesOf s ++ linesOf t := by
  unfold linesOf
  apply pieces_append_sep
  exact beq_self_eq_true '\n'

theorem not_mem_of_mem_linesOf (h : l ∈ linesOf s) : '\n' ∉ l := fun inside => by
  simpa using (of_mem_pieces h inside).2

theorem linesOf_of_not_mem (h : '\n' ∉ s) : linesOf s = [s] := by
  refine pieces_of_clean fun c hc => beq_eq_false_iff_ne.2 ?_
  rintro rfl
  exact h hc

theorem joinLines_linesOf (s : List Char) : joinLines (linesOf s) = s ++ ['\n'] := by
  unfold joinLines linesOf
  induction s with
  | nil => rfl
  | cons c s ih =>
    cases here : c == '\n' with
    | true =>
      obtain rfl : c = '\n' := beq_iff_eq.1 here
      have cut : pieces (· == '\n') ('\n' :: s) = [] :: pieces (· == '\n') s :=
        @pieces_cons_sep (· == '\n') '\n' here s
      rw [cut, List.flatMap_cons, ih]
      rfl
    | false =>
      rw [pieces, here]
      cases rest : pieces (· == '\n') s with
      | nil => exact absurd rest (pieces_ne_nil _ s)
      | cons p ps =>
        rw [rest, List.flatMap_cons] at ih
        rw [List.flatMap_cons, List.cons_append, List.cons_append, ih, List.cons_append]

/-- Lines are found again behind their line feeds. -/
theorem linesOf_joinLines (clean : ∀ l ∈ ls, '\n' ∉ l) : linesOf (joinLines ls) = ls ++ [[]] := by
  induction ls with
  | nil => rfl
  | cons l ls ih =>
    have whole : joinLines (l :: ls) = l ++ '\n' :: joinLines ls := by simp [joinLines]
    rw [whole, linesOf_append, linesOf_of_not_mem (clean l List.mem_cons_self),
      ih fun m hm => clean m (List.mem_cons_of_mem l hm)]
    rfl

theorem joinLines_inj (hs : ∀ l ∈ ls, '\n' ∉ l) (ht : ∀ l ∈ ms, '\n' ∉ l) :
    joinLines ls = joinLines ms ↔ ls = ms := by
  refine ⟨fun same => ?_, congrArg joinLines⟩
  have lines := congrArg linesOf same
  rw [linesOf_joinLines hs, linesOf_joinLines ht] at lines
  exact List.append_cancel_right lines

end Lines

/-! ## Reading -/

/-- Where a reader stands: outside of blocks, or in one with these lines so far. -/
inductive Reader where
  | outside
  | inside (body : List (List Char))

namespace Reader

/-- Where one line leads, and the block that it closes. -/
def step : Reader → List Char → Reader × List (List (List Char))
  | .outside, l => (if l = fenceOpen.toList then .inside [] else .outside, [])
  | .inside body, l => if l = fenceClose.toList then (.outside, [body]) else (.inside (body ++ [l]), [])

/-- Where lines lead, and the blocks that they close. -/
def run : Reader → List (List Char) → Reader × List (List (List Char))
  | s, [] => (s, [])
  | s, l :: ls =>
    let x := s.step l
    let y := run x.1 ls
    (y.1, x.2 ++ y.2)

end Reader

/-- The bodies of the blocks of a document.  A block that is not closed does not count. -/
def blocks (document : List Char) : List (List Char) :=
  (Reader.outside.run (linesOf document)).2.map joinLines

/-! ## Runs -/

namespace Reader

variable {s : Reader} {ls ms body : List (List Char)}

theorem run_append (s : Reader) (ls ms : List (List Char)) :
    s.run (ls ++ ms) = (((s.run ls).1.run ms).1, (s.run ls).2 ++ ((s.run ls).1.run ms).2) := by
  induction ls generalizing s with
  | nil => rfl
  | cons l ls ih => simp only [List.cons_append, run, ih, List.append_assoc]

theorem run_outside (h : fenceOpen.toList ∉ ls) : outside.run ls = (outside, []) := by
  induction ls with
  | nil => rfl
  | cons l ls ih =>
    have other : l ≠ fenceOpen.toList := fun same => h (same ▸ List.mem_cons_self)
    simp only [run, step, if_neg other, ih fun later => h (List.mem_cons_of_mem l later)]
    rfl

theorem run_inside (h : fenceClose.toList ∉ ls) :
    (inside body).run ls = (inside (body ++ ls), []) := by
  induction ls generalizing body with
  | nil => simp [run]
  | cons l ls ih =>
    have other : l ≠ fenceClose.toList := fun same => h (same ▸ List.mem_cons_self)
    simp only [run, step, if_neg other, ih fun later => h (List.mem_cons_of_mem l later)]
    simp

/-- A block that lines without a closing one fill is closed behind them. -/
theorem run_closed (body : List (List Char)) (h : fenceClose.toList ∉ ls) :
    (inside body).run (ls ++ [fenceClose.toList, []]) = (outside, [body ++ ls]) := by
  rw [run_append, run_inside h]
  rfl

/-- Behind a closing line and an empty one a reader is outside of blocks, wherever it was. -/
theorem run_leaves (s : Reader) (ls : List (List Char)) :
    (s.run (ls ++ [fenceClose.toList, []])).1 = outside := by
  rw [run_append]
  cases (s.run ls).1 <;> rfl

theorem run_inside_ne_nil (body : List (List Char)) (h : fenceClose.toList ∈ ls) :
    ((inside body).run ls).2 ≠ [] := by
  induction ls generalizing body with
  | nil => cases h
  | cons l ls ih =>
    by_cases close : l = fenceClose.toList
    · simp [run, step, close]
    · have later := (List.mem_cons.1 h).resolve_left (Ne.symm close)
      simp only [run, step, if_neg close]
      exact ih _ later

/-- An opening line and a closing one behind it enclose the end of a block, wherever it began. -/
theorem run_ne_nil (s : Reader) (h : fenceClose.toList ∈ ls) :
    (s.run (fenceOpen.toList :: ls)).2 ≠ [] := by
  cases s with
  | outside => exact run_inside_ne_nil [] h
  | inside body => exact run_inside_ne_nil body (List.mem_cons_of_mem _ h)

/-- The lines of a block are lines that have been read, and none of them closes it. -/
theorem forall_mem_run {P : List Char → Prop} (before : ∀ b, s = inside b → ∀ l ∈ b, P l)
    (read : ∀ l ∈ ls, l ≠ fenceClose.toList → P l) : ∀ b ∈ (s.run ls).2, ∀ l ∈ b, P l := by
  induction ls generalizing s with
  | nil => exact List.forall_mem_nil _
  | cons l ls ih =>
    obtain ⟨here, later⟩ := List.forall_mem_cons.1 read
    cases s with
    | outside =>
      refine ih (fun b hb => ?_) later
      simp only [step] at hb
      split at hb
      · cases hb
        exact List.forall_mem_nil _
      · cases hb
    | inside body =>
      by_cases close : l = fenceClose.toList
      · simp only [run, step, if_pos close]
        exact List.forall_mem_cons.2 ⟨before body rfl, ih (fun _ none => nomatch none) later⟩
      · simp only [run, step, if_neg close]
        refine ih (fun b hb => ?_) later
        cases hb
        exact List.forall_mem_append.2 ⟨before body rfl, List.forall_mem_singleton.2 (here close)⟩

end Reader

/-! ## Pages -/

theorem fenceOpen_ne_fenceClose : fenceOpen.toList ≠ fenceClose.toList := by decide

/-- The lines of a text with a line end after its last line. -/
def bodyLines (s : List Char) : List (List Char) := linesOf (ended s).dropLast

variable {s t : List Char}

theorem ended_eq (s : List Char) : ended s = (ended s).dropLast ++ ['\n'] := by
  unfold ended
  split
  · next last =>
    obtain ⟨front, rfl⟩ := List.getLast?_eq_some_iff.1 last
    rw [List.dropLast_concat]
  · rw [List.dropLast_concat]

theorem joinLines_bodyLines (s : List Char) : joinLines (bodyLines s) = ended s := by
  rw [bodyLines, joinLines_linesOf, ← ended_eq]

theorem linesOf_ended_append (s rest : List Char) :
    linesOf (ended s ++ rest) = bodyLines s ++ linesOf rest := by
  rw [ended_eq, List.append_assoc]
  exact linesOf_append _ rest

/-- An empty line apart, the line end after the last line adds none. -/
theorem mem_bodyLines {l : List Char} (some_ : l ≠ []) : l ∈ bodyLines s ↔ l ∈ linesOf s := by
  have whole : linesOf (ended s) = bodyLines s ++ [[]] := by
    have := linesOf_ended_append s []
    rwa [List.append_nil] at this
  have inside : l ∈ bodyLines s ↔ l ∈ linesOf (ended s) := by simp [whole, some_]
  rw [inside]
  unfold ended
  split
  · exact Iff.rfl
  · rw [linesOf_append]
    simp [linesOf, pieces, some_]

/-- The lines above the text of a page. -/
def headLines (u : ContentUnit) : List (List Char) := linesOf ("### " ++ u.source).toList ++ [[]]

def pageLines (u : ContentUnit) : List (List Char) :=
  headLines u ++ fenceOpen.toList :: (bodyLines u.text.toList ++ [fenceClose.toList, []])

/-- The blocks that are closed on a page. -/
def closedOn (u : ContentUnit) : List (List (List Char)) := (Reader.outside.run (pageLines u)).2

/-- No line of the text closes the block of a page, and no line of the address opens one. -/
structure Contained (u : ContentUnit) : Prop where
  text : fenceClose.toList ∉ linesOf u.text.toList
  source : fenceOpen.toList ∉ linesOf ("### " ++ u.source).toList

variable {u : ContentUnit}

theorem linesOf_line_append (s : String) (rest : List Char) :
    linesOf (line s ++ rest) = linesOf s.toList ++ linesOf rest := by
  unfold line
  rw [List.append_assoc]
  exact linesOf_append _ rest

theorem linesOf_fenced_append (u : ContentUnit) (rest : List Char) :
    linesOf (fenced u ++ rest) = pageLines u ++ linesOf rest := by
  have opening : linesOf fenceOpen.toList = [fenceOpen.toList] := by decide
  have closing : linesOf fenceClose.toList = [fenceClose.toList] := by decide
  have empty : linesOf "".toList = [[]] := by decide
  unfold fenced pageLines headLines
  simp only [List.append_assoc, linesOf_line_append, linesOf_ended_append, opening, closing, empty]
  simp

theorem run_pageLines (s : Reader) (u : ContentUnit) : (s.run (pageLines u)).1 = .outside := by
  have last : pageLines u =
      (headLines u ++ fenceOpen.toList :: bodyLines u.text.toList) ++ [fenceClose.toList, []] := by
    simp [pageLines]
  rw [last]
  exact s.run_leaves _

/-- Pages are read one by one. -/
theorem blocks_fenced_append (u : ContentUnit) (rest : List Char) :
    blocks (fenced u ++ rest) = (closedOn u).map joinLines ++ blocks rest := by
  unfold blocks closedOn
  rw [linesOf_fenced_append, Reader.run_append, run_pageLines, List.map_append]

theorem blocks_fenced (u : ContentUnit) : blocks (fenced u) = (closedOn u).map joinLines := by
  have alone := blocks_fenced_append u []
  rw [List.append_nil] at alone
  rw [alone]
  exact List.append_nil _

/-- Every page has a block. -/
theorem closedOn_ne_nil (u : ContentUnit) : closedOn u ≠ [] := by
  unfold closedOn pageLines
  rw [Reader.run_append]
  exact List.append_ne_nil_of_right_ne_nil _ (Reader.run_ne_nil _ (by simp))

theorem closedOn_of_contained (h : Contained u) :
    closedOn u = [bodyLines u.text.toList] := by
  have head : fenceOpen.toList ∉ headLines u := by
    unfold headLines
    rw [List.mem_append, not_or]
    exact ⟨h.source, by decide⟩
  have text : fenceClose.toList ∉ bodyLines u.text.toList := by
    rw [mem_bodyLines (by decide)]
    exact h.text
  unfold closedOn pageLines
  rw [Reader.run_append, Reader.run_outside head, List.nil_append]
  show ((Reader.inside []).run _).2 = _
  rw [Reader.run_closed [] text]
  rfl

/-- A page with its text for a block has no line that opens a block above the text. -/
theorem head_of_closedOn (text : fenceClose.toList ∉ bodyLines u.text.toList)
    (h : closedOn u = [bodyLines u.text.toList]) : fenceOpen.toList ∉ headLines u := by
  intro early
  obtain ⟨front, back, split, first⟩ := List.eq_append_cons_of_mem early
  have open_ : closedOn u = ((Reader.inside []).run
      (back ++ fenceOpen.toList :: (bodyLines u.text.toList ++ [fenceClose.toList, []]))).2 := by
    unfold closedOn pageLines
    rw [split, List.append_assoc, Reader.run_append, Reader.run_outside first]
    rfl
  rw [open_] at h
  by_cases close : fenceClose.toList ∈ back
  · -- One block ends in the head and one behind it.
    rw [Reader.run_append] at h
    have end_ : fenceClose.toList ∈ bodyLines u.text.toList ++ [fenceClose.toList, []] := by simp
    have above := List.length_pos_iff.2 (Reader.run_inside_ne_nil [] close)
    have below := List.length_pos_iff.2 (Reader.run_ne_nil ((Reader.inside []).run back).1 end_)
    have both := congrArg List.length h
    rw [List.length_append, List.length_singleton] at both
    omega
  · -- The block holds the end of the head too.
    have none : fenceClose.toList ∉ back ++ fenceOpen.toList :: bodyLines u.text.toList := by
      simp [close, text, Ne.symm fenceOpen_ne_fenceClose]
    have whole := Reader.run_closed [] none
    rw [List.append_assoc, List.cons_append] at whole
    rw [whole] at h
    have long := congrArg List.length (List.singleton_inj.1 h)
    rw [List.nil_append, List.length_append, List.length_cons] at long
    omega

theorem not_mem_of_mem_pageLines {l : List Char} (h : l ∈ pageLines u) : '\n' ∉ l := by
  have whole := linesOf_fenced_append u []
  exact not_mem_of_mem_linesOf (s := fenced u ++ []) (whole ▸ List.mem_append_left _ h)

/-- **The block of a page is its text exactly if the page is contained.** -/
theorem blocks_fenced_eq_iff :
    blocks (fenced u) = [ended u.text.toList] ↔ Contained u := by
  rw [blocks_fenced]
  constructor
  · intro h
    obtain ⟨body, closed, same⟩ := List.map_eq_singleton_iff.1 h
    have inside : body ∈ (Reader.outside.run (pageLines u)).2 := by
      show body ∈ closedOn u
      rw [closed]
      exact List.mem_singleton_self body
    have clean : ∀ l ∈ body, '\n' ∉ l :=
      Reader.forall_mem_run (s := .outside) (fun _ none => nomatch none)
        (fun l hl _ => not_mem_of_mem_pageLines hl) body inside
    have open_ : ∀ l ∈ body, l ≠ fenceClose.toList :=
      Reader.forall_mem_run (s := .outside) (fun _ none => nomatch none) (fun _ _ other => other)
        body inside
    have lines : ∀ l ∈ bodyLines u.text.toList, '\n' ∉ l := fun _ => not_mem_of_mem_linesOf
    rw [← joinLines_bodyLines, joinLines_inj clean lines] at same
    subst same
    have text : fenceClose.toList ∉ bodyLines u.text.toList := fun close => open_ _ close rfl
    have head := head_of_closedOn text closed
    rw [mem_bodyLines (by decide)] at text
    exact ⟨text, fun early => head (List.mem_append_left _ early)⟩
  · intro h
    rw [closedOn_of_contained h, List.map_singleton, joinLines_bodyLines]

/-! ## Documents -/

/-- Whole lines none of which opens a block. -/
def Plain (s : List Char) : Prop :=
  ∃ ls, (∀ rest, linesOf (s ++ rest) = ls ++ linesOf rest) ∧ fenceOpen.toList ∉ ls

theorem Plain.append (hs : Plain s) (ht : Plain t) : Plain (s ++ t) := by
  obtain ⟨ls, lines, noFence⟩ := hs
  obtain ⟨ms, lines', noFence'⟩ := ht
  refine ⟨ls ++ ms, fun rest => ?_, ?_⟩
  · rw [List.append_assoc, lines, lines', List.append_assoc]
  · rw [List.mem_append, not_or]
    exact ⟨noFence, noFence'⟩

theorem plain_nil : Plain [] := ⟨[], fun _ => rfl, List.not_mem_nil⟩

theorem plain_line {s : String} (h : fenceOpen.toList ∉ linesOf s.toList) : Plain (line s) :=
  ⟨linesOf s.toList, fun rest => linesOf_line_append s rest, h⟩

/-- An item is no fence, if its name and its value stand on one line. -/
theorem plain_item {name value : String} (hn : '\n' ∉ name.toList) (hv : '\n' ∉ value.toList) :
    Plain (item name value) := by
  refine plain_line ?_
  rw [linesOf_of_not_mem (by simp [hn, hv]), List.mem_singleton]
  intro same
  have first : fenceOpen.toList.head? = some '-' := by simp [same]
  exact absurd first (by decide)

theorem not_mem_repr (n : Nat) : '\n' ∉ n.repr.toList := by
  intro h
  rw [Nat.toList_repr] at h
  have digit := Nat.isDigit_of_mem_toDigits (by decide) (by decide) h
  exact absurd digit (by decide)

theorem plain_statistics (r : Report) : Plain (statistics r .content) := by
  have status : Plain (status r) := by
    unfold status
    split
    · exact plain_item (by decide) (by decide)
    · split
      · exact plain_item (by decide) (by decide)
      · exact plain_nil
  unfold statistics
  exact (((plain_item (by decide) (not_mem_repr _)).append
    (plain_item (by decide) (not_mem_repr _))).append
    (plain_item (by decide) (not_mem_repr _))).append status

/-- Above the pages no block is opened. -/
theorem plain_above (r : Report) :
    ∃ above, markdown r .content = above ++ r.contents.flatMap fenced ∧ Plain above := by
  have heading {s : String} (h : fenceOpen.toList ∉ linesOf s.toList) :
      Plain (line s ++ line "") := (plain_line h).append (plain_line (by decide))
  have none : Plain (if r.contents.isEmpty then line "_No content collected._" else []) := by
    split
    · exact plain_line (by decide)
    · exact plain_nil
  refine ⟨(line "# Crawl Report" ++ line "") ++ (line "## Statistics" ++ line "") ++
    statistics r .content ++ line "" ++ (line "## Content" ++ line "") ++
    (if r.contents.isEmpty then line "_No content collected._" else []), ?_, ?_⟩
  · simp only [markdown, body, List.append_assoc]
  · exact (((((heading (by decide)).append (heading (by decide))).append
      (plain_statistics r)).append (plain_line (by decide))).append (heading (by decide))).append
      none

theorem blocks_flatMap_fenced (us : List ContentUnit) :
    blocks (us.flatMap fenced) = us.flatMap fun u => blocks (fenced u) := by
  induction us with
  | nil => rfl
  | cons u us ih =>
    rw [List.flatMap_cons, List.flatMap_cons, blocks_fenced_append, ih, blocks_fenced]

theorem blocks_markdown (r : Report) :
    blocks (markdown r .content) = r.contents.flatMap fun u => blocks (fenced u) := by
  obtain ⟨above, whole, ls, lines, noFence⟩ := plain_above r
  rw [whole, ← blocks_flatMap_fenced]
  unfold blocks
  rw [lines, Reader.run_append, Reader.run_outside noFence, List.nil_append]

theorem blocks_fenced_ne_nil (u : ContentUnit) : blocks (fenced u) ≠ [] := by
  rw [blocks_fenced]
  simpa using closedOn_ne_nil u

section

variable {α β : Type} {f : α → List β} (some_ : ∀ x, f x ≠ [])

include some_

theorem length_le_flatMap (xs : List α) : xs.length ≤ (xs.flatMap f).length := by
  induction xs with
  | nil => exact Nat.le_refl _
  | cons x xs ih =>
    have here := List.length_pos_iff.2 (some_ x)
    rw [List.flatMap_cons, List.length_append, List.length_cons]
    omega

/-- Where every element gives something, each gives one thing if there are no more in all. -/
theorem flatMap_eq_map_iff {g : α → β} (xs : List α) :
    xs.flatMap f = xs.map g ↔ ∀ x ∈ xs, f x = [g x] := by
  induction xs with
  | nil => simp
  | cons x xs ih =>
    rw [List.flatMap_cons, List.map_cons, List.forall_mem_cons]
    constructor
    · intro h
      obtain ⟨y, more, here⟩ := List.exists_cons_of_ne_nil (some_ x)
      rw [here, List.cons_append] at h
      obtain ⟨rfl, rest⟩ := List.cons.inj h
      have many := length_le_flatMap some_ xs
      have count := congrArg List.length rest
      rw [List.length_append, List.length_map] at count
      obtain rfl : more = [] := List.length_eq_zero_iff.1 (by omega)
      exact ⟨here, ih.1 rest⟩
    · rintro ⟨here, later⟩
      rw [here, ih.2 later]
      rfl

end

/-- **The blocks of a report are its pages where these are contained.**  The document of a report
reads as its pages do one by one, each with at least one block.  A page reads as its text, with a
line end after the last line, exactly if no line of the text closes its block and no line of the
address opens one; and the blocks are the texts of the pages in number and order exactly if this
holds of all of them. -/
theorem texts_or_escapes (r : Report) :
    blocks (markdown r .content) = (r.contents.flatMap fun u => blocks (fenced u)) ∧
    (∀ u ∈ r.contents, blocks (fenced u) ≠ [] ∧
      (blocks (fenced u) = [ended u.text.toList] ↔ Contained u)) ∧
    (blocks (markdown r .content) = (r.contents.map fun u => ended u.text.toList) ↔
      ∀ u ∈ r.contents, Contained u) := by
  refine ⟨blocks_markdown r, fun u _ => ⟨blocks_fenced_ne_nil u, blocks_fenced_eq_iff⟩, ?_⟩
  rw [blocks_markdown, flatMap_eq_map_iff blocks_fenced_ne_nil]
  exact forall₂_congr fun u _ => blocks_fenced_eq_iff

def prose : ContentUnit := ⟨"http://[::1]/", "<p>hi</p>"⟩

theorem blocks_prose :
    prose ∈ [prose] ∧ Contained prose ∧
    blocks (fenced prose) ≠ [] ∧
    blocks (markdown { contents := [prose] } .content) = ["<p>hi</p>\n".toList] := by
  have contained : Contained prose := ⟨by decide, by decide⟩
  obtain ⟨-, each, all⟩ := texts_or_escapes { contents := [prose] }
  exact ⟨List.mem_singleton_self _, contained, (each prose (List.mem_singleton_self _)).1,
    all.2 (List.forall_mem_singleton.2 contained)⟩

/-- A text with a fence of its own. -/
def fencing : ContentUnit := ⟨"http://[::1]/", "a\n\x60\x60\x60\nb"⟩

theorem escapes_fencing :
    ¬ ∀ r : Report, blocks (markdown r .content) = r.contents.map fun u => ended u.text.toList := by
  intro all
  have one : blocks (markdown { contents := [fencing] } .content) = [ended fencing.text.toList] :=
    all { contents := [fencing] }
  rw [blocks_markdown, List.flatMap_cons, List.flatMap_nil, List.append_nil,
    blocks_fenced_eq_iff] at one
  exact one.text (by decide)

end SiteWalk.Output

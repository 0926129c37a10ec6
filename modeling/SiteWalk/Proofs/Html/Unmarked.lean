import SiteWalk.Html.Forest
import SiteWalk.Proofs.Html.Rules
import SiteWalk.Proofs.Text.LineEnd

/-!
# Texts without markup

A text with nothing that opens a tag or a reference, and without U+0000, is read as the text of
the body of an otherwise empty page, but for the blanks that it begins with.

    read s = leaf (inked (normalize s))     if s is unmarked     (read_of_unmarked)
-/

namespace SiteWalk.Html

open Text

/-! ## Runs -/

theorem decodeReferences_of_not_mem {inValue : Bool} {s : List Char} (h : '&' ∉ s) :
    decodeReferences inValue s = s := by
  fun_induction decodeReferences inValue s with
  | case1 => rfl
  | case2 c r amp cs n _ _ => exact absurd (beq_iff_eq.1 amp ▸ List.mem_cons_self) h
  | case3 c r amp _ _ => exact absurd (beq_iff_eq.1 amp ▸ List.mem_cons_self) h
  | case4 c r _ ih => rw [ih fun later => h (List.mem_cons_of_mem c later)]

/-- Characters of one kind, at least one. -/
structure IsRun (run : Kind × List Char) : Prop where
  some_ : run.2 ≠ []
  kinds : ∀ c ∈ run.2, kindOf c = run.1

theorem isRun_of_mem_runsOf {s : List Char} : ∀ run ∈ runsOf s, IsRun run := by
  fun_induction runsOf s with
  | case1 => exact List.forall_mem_nil _
  | case2 c r k cs rest same joined ih =>
    rw [same] at ih
    obtain ⟨here, later⟩ := List.forall_mem_cons.1 ih
    refine List.forall_mem_cons.2 ⟨⟨List.cons_ne_nil _ _, ?_⟩, later⟩
    exact List.forall_mem_cons.2 ⟨joined.1.symm, here.kinds⟩
  | case3 c r k cs rest same apart ih =>
    rw [same] at ih
    exact List.forall_mem_cons.2
      ⟨⟨List.cons_ne_nil _ _, List.forall_mem_singleton.2 rfl⟩, ih⟩
  | case4 c r none ih =>
    exact List.forall_mem_singleton.2 ⟨List.cons_ne_nil _ _, List.forall_mem_singleton.2 rfl⟩

theorem flatMap_runsOf (s : List Char) : (runsOf s).flatMap Prod.snd = s := by
  fun_induction runsOf s with
  | case1 => rfl
  | case2 c r k cs rest same joined ih =>
    rw [same] at ih
    simpa using ih
  | case3 c r k cs rest same apart ih =>
    rw [same] at ih
    simpa using ih
  | case4 c r none ih =>
    rw [none] at ih
    simpa using ih

/-- The token of a run. -/
def tokenOf (run : Kind × List Char) : Token :=
  match run.1 with
  | .null => .null
  | .blank => .blank (String.ofList run.2)
  | .text => .text (String.ofList run.2)

theorem runs_eq (s : List Char) : runs s = (runsOf s).map tokenOf := rfl

theorem eq_null_of_kindOf {c : Char} (h : kindOf c = .null) : c = '\x00' := by
  unfold kindOf at h
  split at h
  · rename_i null
    exact beq_iff_eq.1 null
  · cases space : isSpace c <;> simp [space] at h

theorem kindOf_eq_blank_iff {c : Char} : kindOf c = .blank ↔ isSpace c = true := by
  unfold kindOf
  split
  · rename_i null
    rw [beq_iff_eq.1 null]
    decide
  · cases isSpace c <;> decide

/-! ## Pages -/

/-- A text from its first character on that is not an HTML blank. -/
def inked (s : List Char) : List Char := s.dropWhile isSpace

theorem inked_append (s t : List Char) :
    inked (s ++ t) = if (inked s).isEmpty then inked t else inked s ++ t :=
  List.dropWhile_append

/-- The page with a text alone in its body. -/
def leaf (s : List Char) : Forest :=
  .node 0 .document
    (.node 1 (.element ⟨.html, "html", []⟩)
      (.node 2 (.element ⟨.html, "head", []⟩) .nil
        (.node 3 (.element ⟨.html, "body", []⟩)
          (if s.isEmpty then .nil else .node 4 (.text (String.ofList s)) .nil .nil) .nil))
      .nil)
    .nil

theorem text_leaf (s : List Char) : (leaf s).text = s := by
  cases s with
  | nil => rfl
  | cons c s => simp [leaf, Forest.text]

namespace Build

/-- The state behind a text in the body. -/
def filled (text : String) : State where
  arena := ⟨#[⟨.document, none, #[1]⟩, ⟨.element ⟨.html, "html", []⟩, some 0, #[2, 3]⟩,
    ⟨.element ⟨.html, "head", []⟩, some 1, #[]⟩, ⟨.element ⟨.html, "body", []⟩, some 1, #[4]⟩,
    ⟨.text text, some 3, #[]⟩]⟩
  mode := .inBody
  opened := [3, 1]
  head := some 2
  framesetOk := false
  quirks := true

/-- The state behind a text without markup: nothing is placed for blanks at the start. -/
def behind (s : List Char) : State :=
  if (inked s).isEmpty then {} else filled (String.ofList (inked s))

theorem accept_blank (text : String) : (accept (.blank text) {}).2 = {} := by cbv

theorem accept_text (text : String) : (accept (.text text) {}).2 = filled text := by cbv

theorem accept_blank_filled (more text : String) :
    (accept (.blank more) (filled text)).2 = filled (text ++ more) := by cbv

theorem accept_text_filled (more text : String) :
    (accept (.text more) (filled text)).2 = filled (text ++ more) := by cbv

theorem behind_of_blank {s : List Char} (h : inked s = []) : behind s = {} := by
  rw [behind, h]
  rfl

theorem behind_of_inked {s ink : List Char} {c : Char} (h : inked s = c :: ink) :
    behind s = filled (String.ofList (c :: ink)) := by
  rw [behind, h]
  rfl

theorem accept_run {run : Kind × List Char} (h : IsRun run) (visible : run.1 ≠ .null)
    (s : List Char) : (accept (tokenOf run) (behind s)).2 = behind (s ++ run.2) := by
  obtain ⟨kind, cs⟩ := run
  have whole := inked_append s cs
  cases ink : inked s with
  | nil =>
    rw [ink, List.isEmpty_nil, if_pos rfl] at whole
    rw [behind_of_blank ink]
    cases kind with
    | null => exact absurd rfl visible
    | blank =>
      have gone : inked cs = [] :=
        List.dropWhile_eq_nil_iff.2 fun c hc => kindOf_eq_blank_iff.1 (h.kinds c hc)
      rw [behind_of_blank (whole.trans gone)]
      exact accept_blank _
    | text =>
      obtain ⟨c, cs, rfl⟩ := List.exists_cons_of_ne_nil h.some_
      have kept : inked (c :: cs) = c :: cs := by
        refine List.dropWhile_cons_of_neg fun space => ?_
        have kind := h.kinds c List.mem_cons_self
        rw [kindOf_eq_blank_iff.2 space] at kind
        cases kind
      rw [behind_of_inked (whole.trans kept)]
      exact accept_text _
  | cons c ink' =>
    rw [ink, List.isEmpty_cons, if_neg Bool.false_ne_true, List.cons_append] at whole
    rw [behind_of_inked ink, behind_of_inked whole, ← List.cons_append, String.ofList_append]
    cases kind with
    | null => exact absurd rfl visible
    | blank => exact accept_blank_filled _ _
    | text => exact accept_text_filled _ _

/-- All runs. -/
theorem accept_runs {rs : List (Kind × List Char)}
    (h : ∀ run ∈ rs, IsRun run ∧ run.1 ≠ .null) (s : List Char) :
    (rs.map tokenOf).foldl (fun st t => (accept t st).2) (behind s) =
      behind (s ++ rs.flatMap Prod.snd) := by
  induction rs generalizing s with
  | nil => rw [List.flatMap_nil, List.append_nil]; rfl
  | cons run rs ih =>
    obtain ⟨here, later⟩ := List.forall_mem_cons.1 h
    rw [List.map_cons, List.foldl_cons, accept_run here.1 here.2, ih later, List.flatMap_cons,
      List.append_assoc]

theorem forest_start : (accept .eof {}).2.arena.forest = leaf [] := by cbv

theorem forest_filled (text : String) : (accept .eof (filled text)).2.arena.forest =
    .node 0 .document
      (.node 1 (.element ⟨.html, "html", []⟩)
        (.node 2 (.element ⟨.html, "head", []⟩) .nil
          (.node 3 (.element ⟨.html, "body", []⟩) (.node 4 (.text text) .nil .nil) .nil))
        .nil)
      .nil := by cbv

theorem forest_behind (s : List Char) :
    (accept .eof (behind s)).2.arena.forest = leaf (inked s) := by
  cases ink : inked s with
  | nil =>
    rw [behind_of_blank ink]
    exact forest_start
  | cons c ink' =>
    rw [behind_of_inked ink]
    exact forest_filled _

end Build

/-! ## Reading -/

/-- Nothing in the text opens a tag or a reference, and it has no U+0000. -/
def Unmarked (s : List Char) : Prop := ∀ c ∈ s, c ≠ '<' ∧ c ≠ '&' ∧ c ≠ '\x00'

variable {s : List Char}

theorem of_mem_normalize {c : Char} (h : c ∈ normalize s) : c = '\n' ∨ c ∈ s :=
  (of_mem_unifyLineEnds h).imp_right fun hc => dropMark_subset s hc

theorem Unmarked.normalize (h : Unmarked s) : Unmarked (normalize s) := fun c hc => by
  rcases of_mem_normalize hc with rfl | hc
  · decide
  · exact h c hc

theorem Unmarked.runs (h : Unmarked s) : ∀ run ∈ runsOf s, IsRun run ∧ run.1 ≠ .null := by
  intro run hrun
  have isRun := isRun_of_mem_runsOf run hrun
  refine ⟨isRun, fun null => ?_⟩
  obtain ⟨c, cs, chars⟩ := List.exists_cons_of_ne_nil isRun.some_
  have first : c ∈ run.2 := chars ▸ List.mem_cons_self
  have mem : c ∈ s := by
    rw [← flatMap_runsOf s]
    exact List.mem_flatMap.2 ⟨run, hrun, first⟩
  exact (h c mem).2.2 (eq_null_of_kindOf (null ▸ isRun.kinds c first))

theorem Unmarked.next {c : Char} {r : List Char} (h : Unmarked (c :: r)) (foreign : Bool) :
    next .markup foreign c r = (Html.runs (c :: r), []) := by
  obtain ⟨first, rest⟩ := List.forall_mem_cons.1 h
  have inside : ∀ d ∈ r, (d != '<' && d != '\x00') = true := fun d hd => by
    have := rest d hd
    simp [this.1, this.2.2]
  have noReference : '&' ∉ c :: r := fun amp => (h '&' amp).2.1 rfl
  simp only [Html.next, beq_iff_eq, first.1, first.2.2, if_false]
  rw [List.takeWhile_eq_self_iff.2 inside, List.dropWhile_eq_nil_iff.2 inside,
    decodeReferences_of_not_mem noReference]

theorem Unmarked.feed (h : Unmarked s) :
    Build.feed s {} = (Build.accept .eof (Build.behind s)).2 := by
  cases s with
  | nil =>
    rw [Build.feed]
    rfl
  | cons c r =>
    have start : Build.behind [] = {} := rfl
    rw [Build.feed]
    dsimp only
    rw [h.next, Build.feed, runs_eq, ← start, Build.accept_runs h.runs, flatMap_runsOf]
    rfl

/-- Without markup a text is the text of the body. -/
theorem read_of_unmarked (h : Unmarked s) : read s = leaf (inked (normalize s)) := by
  show (Build.feed (normalize s) {}).arena.forest = _
  rw [h.normalize.feed, Build.forest_behind]

/-! ## Blank texts -/

theorem unmarked_of_blank (h : s.all isBlank = true) : Unmarked s := fun c hc => by
  have blank := List.all_eq_true.1 h c hc
  refine ⟨?_, ?_, ?_⟩ <;>
    rintro rfl <;>
    exact absurd blank (by decide)

theorem all_isBlank_normalize (h : s.all isBlank = true) : (normalize s).all isBlank = true := by
  refine List.all_eq_true.2 fun c hc => ?_
  rcases of_mem_normalize hc with rfl | hc
  · decide
  · exact List.all_eq_true.1 h c hc

end SiteWalk.Html

import SiteWalk.Proofs.Extract.Clutter
import SiteWalk.Proofs.Html.Unmarked

/-!
# The chosen block

What is chosen of a document is the first block of the best score, of those that may be chosen,
and a block with text has a score of at least one, however many links it holds.  So a page has
content exactly if a block that may be chosen has text.

    Leads (blocks (read html)) x → readable html = heading … ++ trim …       (readable_of_leads)
    no block has text            → readable html = noContent                 (readable_of_blank)
-/

namespace SiteWalk.Extract

open Text Html

/-- The blocks that may be chosen, in order: the body, and whatever does not look like a menu or an
advertisement. -/
def candidates (document : Forest) : List Forest.Place :=
  (document.select (named candidateNames)).filter fun x =>
    x.element.name == "body" || !isBoilerplate x.element

theorem select_isCandidate (document : Forest) :
    document.select isCandidate = candidates document := by
  unfold candidates Forest.select
  rw [List.filter_filter]
  refine List.filter_congr fun x _ => ?_
  rw [Bool.and_comm]
  rfl

theorem blocks_eq (document : Forest) :
    blocks document = candidates (document.sever isClutter) := select_isCandidate _

/-! ## Blank pages -/

theorem sever_leaf (s : List Char) : (leaf s).sever isClutter = leaf s := by
  cases s with
  | nil => rfl
  | cons c s => rfl

/-- On a page of blanks no block has text. -/
theorem collapse_of_blank {html : List Char} (h : html.all isBlank = true) :
    ∀ x ∈ blocks (read html), collapse x.kids.text = [] := by
  intro x hx
  rw [blocks, read_of_unmarked (unmarked_of_blank h), sever_leaf] at hx
  refine collapse_eq_nil_iff.2 fun c hc => .inl ?_
  have inText := Forest.text_subset_of_mem_select hx hc
  rw [text_leaf] at inText
  have inPage := (List.dropWhile_sublist _).subset inText
  exact List.all_eq_true.1 (all_isBlank_normalize h) c inPage

/-! ## Content -/

variable {html : List Char} {x : Forest.Place}

theorem readable_of_leads (h : Leads (blocks (read html)) x) :
    readable html = heading (read html) ++ trim x.kids.innerMarkup := by
  have dark : ¬ html.all isBlank = true := fun blank =>
    score_pos_iff.1 h.pos (collapse_of_blank blank x h.mem)
  rw [readable, if_neg dark, readableOf_some (best_eq_some_iff.2 h)]

theorem readable_of_blank (h : ∀ y ∈ blocks (read html), collapse y.kids.text = []) :
    readable html = noContent.toList := by
  unfold readable
  split
  · rfl
  · exact readableOf_none (best_eq_none_iff.2 h)

theorem exists_leads_iff {ps : List Forest.Place} :
    (∃ x, Leads ps x) ↔ ∃ y ∈ ps, collapse y.kids.text ≠ [] := by
  have chosen : (∃ x, best ps = some x) ↔ ¬ best ps = none := by
    rw [← ne_eq, Option.ne_none_iff_exists']
  simp only [← best_eq_some_iff, chosen, best_eq_none_iff]
  simp

/-- **The first block of the best score is chosen, and one is wherever a block has text.**  In every
document the choice is the first block of the highest score among those that may be chosen, and
there is none exactly if none of them has text.  A page on which one has text puts out what the
chosen block holds, whatever its links cost it; the sentinel stands for the pages without. -/
theorem leads_or_blank :
    (∀ document : Forest,
      (∀ x, best (document.select isCandidate) = some x ↔ Leads (candidates document) x) ∧
      (best (document.select isCandidate) = none ↔
        ∀ y ∈ candidates document, collapse y.kids.text = [])) ∧
    ∀ html : List Char,
      ((∃ y ∈ candidates ((read html).sever isClutter), collapse y.kids.text ≠ []) →
        ∃ x, Leads (candidates ((read html).sever isClutter)) x ∧
          readable html = heading (read html) ++ trim x.kids.innerMarkup) ∧
      ((∀ y ∈ candidates ((read html).sever isClutter), collapse y.kids.text = []) →
        readable html = noContent.toList) := by
  refine ⟨fun document => ?_, fun html => ?_⟩
  · rw [select_isCandidate]
    exact ⟨fun _ => best_eq_some_iff, best_eq_none_iff⟩
  · rw [← blocks_eq]
    refine ⟨fun text => ?_, readable_of_blank⟩
    obtain ⟨x, leads⟩ := exists_leads_iff.2 text
    exact ⟨x, leads, readable_of_leads leads⟩

/-- On one page the block with text leads; a page of blanks has none. -/
theorem leads_menu :
    ((∃ y ∈ candidates ((read menu).sever isClutter), collapse y.kids.text ≠ []) ∧
      ∃ x, Leads (candidates ((read menu).sever isClutter)) x ∧
        readable menu = heading (read menu) ++ trim x.kids.innerMarkup) ∧
    (∀ y ∈ candidates ((read [' ']).sever isClutter), collapse y.kids.text = []) ∧
      readable [' '] = noContent.toList := by
  obtain ⟨-, content⟩ := leads_or_blank
  obtain ⟨x, chosen, -⟩ := chosen_menu
  have text := exists_leads_iff.1 ⟨x, best_eq_some_iff.1 chosen⟩
  have blank := collapse_of_blank (show [' '].all isBlank = true from rfl)
  rw [blocks_eq] at text blank
  exact ⟨⟨text, (content menu).1 text⟩, blank, (content [' ']).2 blank⟩

end SiteWalk.Extract

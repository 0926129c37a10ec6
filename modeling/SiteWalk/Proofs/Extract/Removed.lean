import SiteWalk.Extract.Selector
import SiteWalk.Proofs.Html.Rules

/-!
# Removed elements

An element that is removed is taken from its parent, and the search for matches goes on below
it.  What is put out holds no removed element, and it is what the document without them gives,
unless a match lies in one.

    selected s remove doc  =  inner markup of the matches, without removed elements
    …  =  what s yields on the document without them, if no match lies in a removed element
                                                                            (selected_removed)
-/

namespace SiteWalk.Extract

open Text Html

/-- What a selector yields on a document as it is. -/
def matched (s : Selector) (document : Forest) : List Char :=
  if s.isValid then (document.select s.hits).flatMap fun x => x.kids.innerMarkup else []

/-- The matches that are not removed themselves. -/
def remaining (s : Selector) (remove : List String) (document : Forest) : List Forest.Place :=
  document.left (isElementIn remove) s.hits

section

variable (s : Selector) (remove : List String)

/-- Every match that is not removed itself puts out what it holds, without removed elements. -/
theorem selected_eq {document : Forest} (distinct : document.stamps.Nodup) :
    selected s remove document =
      if s.isValid then
        (remaining s remove document).flatMap fun x =>
          (x.kids.prune (isElementIn remove)).innerMarkup
      else [] := by
  have parts := Forest.parts_select_sever (isElementIn remove) s.hits distinct
  have kids := congrArg (List.map fun x : Nat × Element × Forest => x.2.2.innerMarkup) parts
  rw [List.map_map, List.map_map] at kids
  unfold selected
  congr 1
  rw [List.flatMap_def, List.flatMap_def]
  exact congrArg List.flatten kids

/-- **Removed elements and matches.**  On every page, with every selector and removal list, each
match that is not removed itself puts out what it holds without removed elements, wherever it
lies.  The matches are those of the document without removed elements exactly if none lies in
one, and then the same is put out. -/
theorem selected_removed (html : List Char) :
    selected s remove (read html) =
        (if s.isValid then
          (remaining s remove (read html)).flatMap fun x =>
            (x.kids.prune (isElementIn remove)).innerMarkup
        else []) ∧
      (∀ x ∈ remaining s remove (read html),
        ∀ item ∈ (x.kids.prune (isElementIn remove)).items, isElementIn remove item = false) ∧
      (((read html).sever (isElementIn remove)).select s.hits =
          ((read html).prune (isElementIn remove)).select s.hits ↔
        ∀ x ∈ remaining s remove (read html), x.stamp ∉ (read html).inside (isElementIn remove)) ∧
      ((∀ x ∈ remaining s remove (read html), x.stamp ∉ (read html).inside (isElementIn remove)) →
        selected s remove (read html) = matched s ((read html).prune (isElementIn remove))) := by
  have distinct := nodup_stamps_read html
  have same := Forest.select_sever_eq_iff (isElementIn remove) s.hits distinct
  refine ⟨selected_eq s remove distinct, fun x _ item h => Forest.not_of_mem_items_prune h, same,
    fun outside => ?_⟩
  unfold selected matched
  rw [same.2 outside]

end

/-! ## A match in a removed element -/

/-- A block in a navigation. -/
def menu : List Char := "<nav>a<div>b</div></nav>".toList

theorem read_menu :
    read menu =
      .node 0 .document
        (.node 1 (.element ⟨.html, "html", []⟩)
          (.node 2 (.element ⟨.html, "head", []⟩) .nil
            (.node 3 (.element ⟨.html, "body", []⟩)
              (.node 4 (.element ⟨.html, "nav", []⟩)
                (.node 5 (.text "a") .nil
                  (.node 6 (.element ⟨.html, "div", []⟩) (.node 7 (.text "b") .nil .nil) .nil))
                .nil)
              .nil))
          .nil)
        .nil := by
  show (Build.feed (normalize menu) {}).arena.forest = _
  rw [Build.feed_eq_feedWithin 30 _ _ (by decide)]
  decide +kernel

theorem places_menu : (read menu).places = (read menu).inner :=
  Forest.places_of_sorted (by rw [read_menu]; decide)

/-- Where the navigation is selected and the block in it removed, no match is lost. -/
theorem selected_removed_menu :
    (∀ x ∈ remaining ⟨"nav", none, none⟩ ["div"] (read menu),
        x.stamp ∉ (read menu).inside (isElementIn ["div"])) ∧
      selected ⟨"nav", none, none⟩ ["div"] (read menu) =
        matched ⟨"nav", none, none⟩ ((read menu).prune (isElementIn ["div"])) ∧
      selected ⟨"nav", none, none⟩ ["div"] (read menu) = ['a'] := by
  have spec := selected_removed ⟨"nav", none, none⟩ ["div"] menu
  have outside : ∀ x ∈ remaining ⟨"nav", none, none⟩ ["div"] (read menu),
      x.stamp ∉ (read menu).inside (isElementIn ["div"]) := by
    rw [remaining, Forest.left, Forest.select, places_menu, read_menu]
    decide
  refine ⟨outside, spec.2.2.2 outside, ?_⟩
  rw [spec.1, remaining, Forest.left, Forest.select, places_menu, read_menu]
  decide

/-- A block in a removed navigation is put out all the same. -/
theorem selected_in_menu :
    selected ⟨"div", none, none⟩ ["nav"] (read menu) = ['b'] ∧
      matched ⟨"div", none, none⟩ ((read menu).prune (isElementIn ["nav"])) = [] := by
  constructor
  · rw [selected_eq _ _ (nodup_stamps_read menu), remaining, Forest.left, Forest.select,
      places_menu, read_menu]
    decide
  · have sorted : ((read menu).prune (isElementIn ["nav"])).places =
        ((read menu).prune (isElementIn ["nav"])).inner :=
      Forest.places_of_sorted (by rw [read_menu]; decide)
    rw [matched, Forest.select, sorted, read_menu]
    decide

/-- Matches may lie in removed elements, and then what is put out is not what the document
without removed elements gives. -/
theorem not_all_removed :
    (¬ ∀ (s : Selector) (remove : List String) (html : List Char),
      ∀ x ∈ ((read html).sever (isElementIn remove)).select s.hits,
        x.stamp ∉ (read html).inside (isElementIn remove)) ∧
    ¬ ∀ (s : Selector) (remove : List String) (html : List Char),
      selected s remove (read html) = matched s ((read html).prune (isElementIn remove)) := by
  have differ (same : selected ⟨"div", none, none⟩ ["nav"] (read menu) =
      matched ⟨"div", none, none⟩ ((read menu).prune (isElementIn ["nav"]))) : False := by
    rw [selected_in_menu.1, selected_in_menu.2] at same
    cases same
  refine ⟨fun outside => differ ?_, fun same => differ (same _ _ _)⟩
  have places := Forest.off_of_not_mem (outside ⟨"div", none, none⟩ ["nav"] menu)
  rw [Forest.select_sever_outside _ _ (nodup_stamps_read menu)] at places
  rw [selected, matched, ← places]

end SiteWalk.Extract

import SiteWalk.Proofs.Extract.Best
import SiteWalk.Proofs.Extract.Removed

/-!
# Clutter

Clutter is taken from its parents before a block is chosen, and blocks that lie in it still
compete.  The block that is chosen holds no clutter; it lies outside of clutter exactly if it
is also the choice on the document without it.

    best blocks = some x  →  (x lies in no clutter ↔ best outer = some x)
    best blocks = none    ↔  no block has text
-/

namespace SiteWalk.Html.Forest

variable {p : Item → Bool} {d : Nat} {f : Forest} {x : Place}

/-! ## Text -/

theorem text_kids_subset (n : Nat) (item : Item) (kids next : Forest) :
    kids.text ⊆ (Forest.node n item kids next).text := by
  intro c hc
  cases item <;> simp [text, hc]

theorem text_next_subset (n : Nat) (item : Item) (kids next : Forest) :
    next.text ⊆ (Forest.node n item kids next).text := by
  intro c hc
  cases item <;> simp [text, hc]

theorem kids_own {n : Nat} {item : Item} {kids : Forest} (h : x ∈ own n d kids item) :
    x.kids = kids := by
  cases item <;> simp_all [own]

/-- The text of an element is text of the document. -/
theorem text_subset_of_mem_elements (h : x ∈ elements d f) : x.kids.text ⊆ f.text := by
  induction f generalizing d with
  | nil => cases h
  | node n item kids next ihKids ihNext =>
    rw [elements_node] at h
    rcases List.mem_append.1 h with h | h
    · rw [kids_own h]
      exact text_kids_subset n item kids next
    · rcases List.mem_append.1 h with h | h
      · exact List.Subset.trans (ihKids h) (text_kids_subset n item kids next)
      · exact List.Subset.trans (ihNext h) (text_next_subset n item kids next)

theorem text_subset_of_mem_inner (h : x ∈ f.inner) : x.kids.text ⊆ f.text := by
  induction f with
  | nil => cases h
  | node n item kids next _ ih =>
    rcases List.mem_append.1 h with h | h
    · exact List.Subset.trans (text_subset_of_mem_elements h) (text_kids_subset n item kids next)
    · exact List.Subset.trans (ih h) (text_next_subset n item kids next)

theorem text_subset_of_mem_select {q : Element → Bool} (h : x ∈ f.select q) :
    x.kids.text ⊆ f.text :=
  text_subset_of_mem_inner ((perm_places f).mem_iff.1 (List.mem_filter.1 h).1)

end SiteWalk.Html.Forest

namespace SiteWalk.Extract

open Text Html

/-! ## Blocks -/

/-- The blocks that compete, in order: clutter is taken from its parents before. -/
def blocks (document : Forest) : List Forest.Place := (document.sever isClutter).select isCandidate

/-- The blocks of the document without clutter and what is in it. -/
def outer (document : Forest) : List Forest.Place := (document.prune isClutter).select isCandidate

variable {document : Forest} {x : Forest.Place} (distinct : document.stamps.Nodup)

include distinct

theorem blocks_outside :
    (blocks document).filter (fun x => x.stamp ∉ document.inside isClutter) = outer document :=
  Forest.select_sever_outside isClutter isCandidate distinct

/-- No block holds clutter. -/
theorem isClutter_block (h : x ∈ blocks document) :
    isClutter (.element x.element) = false ∧ ∀ item ∈ x.kids.items, isClutter item = false := by
  have parts := Forest.parts_select_sever isClutter isCandidate distinct
  have mem : x.parts ∈ (blocks document).map Forest.Place.parts := List.mem_map_of_mem h
  rw [blocks, parts] at mem
  obtain ⟨y, hy, same⟩ := List.mem_map.1 mem
  simp only [Forest.Place.parts, Prod.mk.injEq] at same
  obtain ⟨-, element, kids⟩ := same
  rw [← element, ← kids]
  exact ⟨by simpa using (List.mem_filter.1 hy).2, fun item => Forest.not_of_mem_items_prune⟩

/-- A block outside of clutter has no text that is not outside. -/
theorem collapse_of_outside (blank : collapse (document.prune isClutter).text = [])
    (h : x ∈ blocks document) (outside : x.stamp ∉ document.inside isClutter) :
    collapse x.kids.text = [] := by
  have mem : x ∈ outer document := by
    rw [← blocks_outside distinct]
    exact List.mem_filter.2 ⟨h, decide_eq_true outside⟩
  rw [collapse_eq_nil_iff] at blank ⊢
  exact fun c hc => blank c (Forest.text_subset_of_mem_select mem hc)

omit distinct

/-- What stands above the chosen block: the page title, if there is one. -/
def heading (document : Forest) : List Char :=
  match title? document with
  | some t => "<h1>".toList ++ t.flatMap escapeTitleChar ++ "</h1>\n".toList
  | none => []

theorem readableOf_some (h : best (blocks document) = some x) :
    readableOf document = heading document ++ trim x.kids.innerMarkup := by
  unfold blocks at h
  unfold readableOf heading
  rw [h]
  cases title? document with
  | none => rfl
  | some t => simp only [List.append_assoc]

theorem readableOf_none (h : best (blocks document) = none) :
    readableOf document = noContent.toList := by
  unfold blocks at h
  unfold readableOf
  rw [h]

/-- **Clutter and the chosen block.**  Every page without the sentinel puts out, below its title,
what the chosen block holds.  That block is no clutter and holds none, and it lies outside of
clutter exactly if it is also chosen without what is in clutter.  No block is chosen, which
gives the sentinel, exactly if no block has text; where all text is in clutter, exactly if no
block in clutter has text. -/
theorem readable_clutter (html : List Char) :
    (readable html = noContent.toList ∨ ∃ x, best (blocks (read html)) = some x ∧
      readable html = heading (read html) ++ trim x.kids.innerMarkup) ∧
    (∀ x, best (blocks (read html)) = some x →
      (isClutter (.element x.element) = false ∧ ∀ item ∈ x.kids.items, isClutter item = false) ∧
      (x.stamp ∉ (read html).inside isClutter ↔ best (outer (read html)) = some x)) ∧
    (best (blocks (read html)) = none → readable html = noContent.toList) ∧
    (best (blocks (read html)) = none ↔
      ∀ x ∈ blocks (read html), collapse x.kids.text = []) ∧
    (collapse ((read html).prune isClutter).text = [] →
      (best (blocks (read html)) = none ↔
        ∀ x ∈ blocks (read html), x.stamp ∈ (read html).inside isClutter →
          collapse x.kids.text = [])) := by
  have distinct := nodup_stamps_read html
  refine ⟨?_, fun x hx => ⟨isClutter_block distinct (best_eq_some_iff.1 hx).mem, ?_⟩,
    fun absent => ?_, best_eq_none_iff, fun blank => ?_⟩
  · unfold readable
    split
    · exact .inl rfl
    · cases chosen : best (blocks (read html)) with
      | none => exact .inl (readableOf_none chosen)
      | some x => exact .inr ⟨x, rfl, readableOf_some chosen⟩
  · rw [← blocks_outside distinct, ← best_filter hx, decide_eq_true_eq]
  · unfold readable
    split
    · rfl
    · exact readableOf_none absent
  · rw [best_eq_none_iff]
    refine forall₂_congr fun x hx => ⟨fun h _ => h, fun h => ?_⟩
    by_cases inside : x.stamp ∈ (read html).inside isClutter
    · exact h inside
    · exact collapse_of_outside distinct blank hx inside

/-! ## A block in clutter -/

theorem best_menu : (best (blocks (read menu))).map Forest.Place.parts =
    some (6, ⟨.html, "div", []⟩, .node 7 (.text "b") .nil .nil) := by
  have sorted : ((read menu).sever isClutter).places = ((read menu).sever isClutter).inner :=
    Forest.places_of_sorted (by rw [read_menu]; decide)
  rw [blocks, Forest.select, sorted, read_menu]
  decide

/-- The block in the navigation is chosen, though there is no text but there. -/
theorem chosen_menu : ∃ x, best (blocks (read menu)) = some x ∧
    x.stamp ∈ (read menu).inside isClutter ∧ x.kids.innerMarkup = ['b'] := by
  obtain ⟨x, hx, parts⟩ := Option.map_eq_some_iff.1 best_menu
  obtain ⟨stamp, -, kids⟩ : x.stamp = 6 ∧ x.element = _ ∧ x.kids = _ := by
    simpa only [Forest.Place.parts, Prod.mk.injEq] using parts
  refine ⟨x, hx, ?_, ?_⟩
  · rw [stamp, read_menu]
    decide
  · rw [kids]
    decide

theorem blank_outside_menu : collapse ((read menu).prune isClutter).text = [] := by
  rw [read_menu]
  decide

/-- The block in the navigation is chosen though nothing is without it, so some block in clutter
has text. -/
theorem readable_clutter_menu :
    collapse ((read menu).prune isClutter).text = [] ∧
      ∃ x, best (blocks (read menu)) = some x ∧ (∀ item ∈ x.kids.items, isClutter item = false) ∧
        best (outer (read menu)) ≠ some x ∧
        ¬ ∀ x ∈ blocks (read menu), x.stamp ∈ (read menu).inside isClutter →
          collapse x.kids.text = [] := by
  obtain ⟨-, chosen, -, -, absent⟩ := readable_clutter menu
  obtain ⟨x, hx, inside, -⟩ := chosen_menu
  refine ⟨blank_outside_menu, x, hx, (chosen x hx).1.2, fun same => ?_, fun blank => ?_⟩
  · exact (chosen x hx).2.2 same inside
  · rw [(absent blank_outside_menu).2 blank] at hx
    cases hx

theorem readable_menu : readable menu = ['b'] := by
  obtain ⟨x, hx, -, markup⟩ := chosen_menu
  have untitled : heading (read menu) = [] := by
    rw [heading, title?, Forest.select, places_menu, read_menu]
    decide
  have dark : ¬ menu.all isBlank = true := by decide
  rw [readable, if_neg dark, readableOf_some hx, untitled, markup]
  decide

/-- A block in clutter may be chosen, and a page whose text is all in clutter may have content. -/
theorem not_all_clutter :
    (¬ ∀ (html : List Char) (x : Forest.Place), best (blocks (read html)) = some x →
      x.stamp ∉ (read html).inside isClutter) ∧
    ¬ ∀ html : List Char, collapse ((read html).prune isClutter).text = [] →
      readable html = noContent.toList := by
  obtain ⟨x, hx, inside, -⟩ := chosen_menu
  refine ⟨fun outside => outside menu x hx inside, fun absent => ?_⟩
  have sentinel := absent menu blank_outside_menu
  rw [readable_menu] at sentinel
  exact absurd sentinel (by decide)

end SiteWalk.Extract

import Mathlib.Data.List.Nodup
import SiteWalk.Html.Select

/-!
# Severed nodes

Nodes that are taken from their parents keep what is below them, and selection goes on to
find it there.  So of the elements that have a parent only the severed ones themselves are
missed.  Where no element that is looked for lies in a severed node, the same is found as in
the forest without their trees.

    (f.sever p).select q  =  f.left p q, each without p-nodes                (parts_select_sever)
    … of these, those outside of p-nodes  =  (f.prune p).select q          (select_sever_outside)
    … these are all  ↔  no element of f.left p q lies in a p-node           (select_sever_eq_iff)
-/

namespace SiteWalk.Html

/-- What is at a place, wherever that is. -/
def Forest.Place.parts (x : Forest.Place) : Nat × Element × Forest := (x.stamp, x.element, x.kids)

namespace Forest

open scoped List

variable {p : Item → Bool} {d i : Nat} {f g : Forest}

/-! ## Nodes -/

/-- The stamps of all nodes, in document order. -/
def stamps : Forest → List Nat
  | .nil => []
  | .node n _ kids next => n :: (stamps kids ++ stamps next)

/-- What the nodes hold, in document order. -/
def items : Forest → List Item
  | .nil => []
  | .node _ item kids next => item :: (items kids ++ items next)

/-- The stamps of the nodes that lie in a node that satisfies `p`. -/
def inside (p : Item → Bool) : Forest → List Nat
  | .nil => []
  | .node _ item kids next => (if p item then stamps kids else inside p kids) ++ inside p next

/-- The place of a node, if it is an element. -/
def own (n depth : Nat) (kids : Forest) : Item → List Place
  | .element e => [⟨n, depth, e, kids⟩]
  | _ => []

theorem elements_node (n : Nat) (item : Item) (kids next : Forest) :
    elements d (.node n item kids next) =
      own n d kids item ++ (elements (d + 1) kids ++ elements d next) := by
  cases item <;> rfl

theorem prune_pos {n : Nat} {item : Item} {kids next : Forest} (h : p item = true) :
    prune p (.node n item kids next) = prune p next := by
  rw [prune, if_pos h]

theorem prune_neg {n : Nat} {item : Item} {kids next : Forest} (h : ¬ p item = true) :
    prune p (.node n item kids next) = .node n item (prune p kids) (prune p next) := by
  rw [prune, if_neg h]

theorem inner_append (f g : Forest) : (f ++ g).inner = f.inner ++ g.inner := by
  induction f with
  | nil => rfl
  | node n item kids next _ ih =>
    show elements 1 kids ++ (next ++ g).inner = (elements 1 kids ++ next.inner) ++ g.inner
    rw [ih, List.append_assoc]

/-- No node of a pruned forest satisfies `p`. -/
theorem not_of_mem_items_prune {item : Item} (h : item ∈ (f.prune p).items) : p item = false := by
  induction f with
  | nil => cases h
  | node n own kids next ihKids ihNext =>
    by_cases cut : p own = true
    · rw [prune_pos cut] at h
      exact ihNext h
    · rw [prune_neg cut] at h
      rcases List.mem_cons.1 h with rfl | h
      · exact Bool.eq_false_iff.2 cut
      · exact (List.mem_append.1 h).elim ihKids ihNext

/-! ## What is left of elements -/

/-- What is left of the elements under `depth` nodes: those that satisfy `p` go, and so does
what is below them in others.  Below such a node, elements are under it alone. -/
def remnantsUnder (p : Item → Bool) (depth : Nat) : Forest → List Place
  | .nil => []
  | .node n item kids next =>
    (if p item then [] else own n depth (prune p kids) item) ++
      (remnantsUnder p (if p item then 1 else depth + 1) kids ++ remnantsUnder p depth next)

/-- What is left of the elements below the roots. -/
def remnants (p : Item → Bool) : Forest → List Place
  | .nil => []
  | .node _ _ kids next => remnantsUnder p 1 kids ++ remnants p next

theorem perm_interchange {α : Type} (a b c d : List α) :
    ((a ++ b) ++ (c ++ d)).Perm ((a ++ c) ++ (b ++ d)) := by
  rw [List.append_assoc, List.append_assoc]
  exact (List.perm_append_comm_assoc b c d).append_left a

/-- What is left in a forest and what is left in the trees that were cut off. -/
theorem perm_remnantsUnder :
    (elements d (prune p f) ++ (pruned p f).inner).Perm (remnantsUnder p d f) := by
  induction f generalizing d with
  | nil => exact .nil
  | node n item kids next ihKids ihNext =>
    by_cases cut : p item = true
    · rw [prune_pos cut, pruned, if_pos cut, remnantsUnder, if_pos cut, if_pos cut]
      show (elements d (prune p next) ++
        (elements 1 (prune p kids) ++ (pruned p kids ++ pruned p next).inner)).Perm _
      rw [inner_append]
      refine (List.perm_append_comm_assoc _ _ _).trans ?_
      refine (List.Perm.append_left _ (List.perm_append_comm_assoc _ _ _)).trans ?_
      rw [← List.append_assoc]
      exact ihKids.append ihNext
    · rw [prune_neg cut, pruned, if_neg cut, remnantsUnder, if_neg cut, if_neg cut, elements_node,
        inner_append, List.append_assoc]
      exact ((perm_interchange _ _ _ _).trans (ihKids.append ihNext)).append_left _

/-- Severing leaves all elements with a parent but those severed. -/
theorem perm_remnants : (sever p f).inner.Perm (remnants p f) := by
  show ((sever.roots p f ++ sever.cut p f).inner).Perm _
  rw [inner_append]
  induction f with
  | nil => exact .nil
  | node n item kids next _ ih =>
    show ((elements 1 (prune p kids) ++ (sever.roots p next).inner) ++
      ((pruned p kids ++ sever.cut p next).inner)).Perm _
    rw [inner_append]
    exact (perm_interchange _ _ _ _).trans (perm_remnantsUnder.append ih)

/-! ## All of them -/

theorem filter_own (n : Nat) (item : Item) (kids : Forest) :
    (own n d kids item).filter (fun x => !p (.element x.element)) =
      if p item then [] else own n d kids item := by
  cases item with
  | element e => cases h : p (.element e) <;> simp [own, h]
  | _ => simp [own]

/-- What is left of an element is what it holds without the nodes that satisfy `p`. -/
theorem parts_remnantsUnder :
    (remnantsUnder p d f).map Place.parts =
      ((elements i f).filter fun x => !p (.element x.element)).map
        fun x => (x.stamp, x.element, x.kids.prune p) := by
  induction f generalizing d i with
  | nil => rfl
  | node n item kids next ihKids ihNext =>
    rw [elements_node, remnantsUnder]
    simp only [List.map_append, List.filter_append, filter_own]
    rw [ihKids (i := i + 1), ihNext (i := i)]
    congr 1
    split
    · rfl
    · cases item <;> rfl

theorem parts_remnants :
    (remnants p f).map Place.parts =
      (f.inner.filter fun x => !p (.element x.element)).map
        fun x => (x.stamp, x.element, x.kids.prune p) := by
  induction f with
  | nil => rfl
  | node n item kids next _ ih =>
    show (remnantsUnder p 1 kids ++ remnants p next).map Place.parts =
      ((elements 1 kids ++ next.inner).filter _).map _
    rw [List.map_append, List.filter_append, List.map_append, parts_remnantsUnder (i := 1), ih]

/-! ## Those outside -/

theorem inside_subset : f.inside p ⊆ f.stamps := by
  induction f with
  | nil => exact List.Subset.refl _
  | node n item kids next ihKids ihNext =>
    intro m hm
    rw [inside, List.mem_append] at hm
    refine List.mem_cons_of_mem _ (List.mem_append.2 (hm.imp (fun hm => ?_) (ihNext ·)))
    split at hm
    · exact hm
    · exact ihKids hm

theorem stamp_own {n : Nat} {item : Item} {kids : Forest} {x : Place}
    (h : x ∈ own n d kids item) : x.stamp = n := by
  cases item <;> simp_all [own]

theorem stamp_remnantsUnder {x : Place} (h : x ∈ remnantsUnder p d f) : x.stamp ∈ f.stamps := by
  induction f generalizing d with
  | nil => cases h
  | node n item kids next ihKids ihNext =>
    rw [remnantsUnder, List.mem_append, List.mem_append] at h
    rcases h with h | h | h
    · split at h
      · cases h
      · exact stamp_own h ▸ List.mem_cons_self
    · exact List.mem_cons_of_mem _ (List.mem_append_left _ (ihKids h))
    · exact List.mem_cons_of_mem _ (List.mem_append_right _ (ihNext h))

/-- The places whose stamps are not listed. -/
def off (s : List Nat) (xs : List Place) : List Place := xs.filter fun x => x.stamp ∉ s

theorem off_append (s : List Nat) (xs ys : List Place) : off s (xs ++ ys) = off s xs ++ off s ys :=
  List.filter_append ..

theorem off_of_mem {s : List Nat} {xs : List Place} (h : ∀ x ∈ xs, x.stamp ∈ s) : off s xs = [] :=
  List.filter_eq_nil_iff.2 fun x hx => by simpa using h x hx

theorem off_of_not_mem {s : List Nat} {xs : List Place} (h : ∀ x ∈ xs, x.stamp ∉ s) :
    off s xs = xs :=
  List.filter_eq_self.2 fun x hx => by simpa using h x hx

/-- Of the stamps in a forest, `s` lists those of the nodes in others that satisfy `p`. -/
def Lists (p : Item → Bool) (s : List Nat) (f : Forest) : Prop :=
  ∀ n ∈ f.stamps, n ∈ s ↔ n ∈ f.inside p

/-- The stamps of a node, of those below it and of those after it. -/
structure Apart (n : Nat) (kids next : Forest) : Prop where
  here : n ∉ kids.stamps ∧ n ∉ next.stamps
  below : kids.stamps.Nodup
  after : next.stamps.Nodup
  disjoint : ∀ m ∈ kids.stamps, m ∉ next.stamps

theorem apart_of_nodup {n : Nat} {item : Item} {kids next : Forest}
    (h : (Forest.node n item kids next).stamps.Nodup) : Apart n kids next := by
  obtain ⟨here, rest⟩ := List.nodup_cons.1 h
  obtain ⟨below, after, disjoint⟩ := List.nodup_append.1 rest
  rw [List.mem_append, not_or] at here
  exact ⟨here, below, after, fun m hm hm' => disjoint m hm m hm' rfl⟩

section

variable {n m : Nat} {item : Item} {kids next : Forest} {s : List Nat}

theorem mem_inside_node : m ∈ (Forest.node n item kids next).inside p ↔
    (m ∈ kids.stamps ∧ p item = true ∨ m ∈ kids.inside p) ∨ m ∈ next.inside p := by
  rw [inside, List.mem_append]
  refine or_congr_left ?_
  by_cases cut : p item = true
  · rw [if_pos cut]
    exact ⟨fun hm => .inl ⟨hm, cut⟩, fun hm => hm.elim And.left (inside_subset ·)⟩
  · rw [if_neg cut]
    exact ⟨.inr, fun hm => hm.resolve_left fun h => cut h.2⟩

theorem Lists.here (h : Lists p s (.node n item kids next)) (apart : Apart n kids next) :
    n ∉ s := by
  rw [h n List.mem_cons_self, mem_inside_node]
  rintro ((⟨below, -⟩ | below) | after)
  · exact apart.here.1 below
  · exact apart.here.1 (inside_subset below)
  · exact apart.here.2 (inside_subset after)

theorem Lists.below (h : Lists p s (.node n item kids next)) (apart : Apart n kids next)
    (hm : m ∈ kids.stamps) : m ∈ s ↔ p item = true ∨ m ∈ kids.inside p := by
  rw [h m (List.mem_cons_of_mem _ (List.mem_append_left _ hm)), mem_inside_node,
    or_iff_left fun after => apart.disjoint m hm (inside_subset after), and_iff_right hm]

theorem Lists.after (h : Lists p s (.node n item kids next)) (apart : Apart n kids next) :
    Lists p s next := by
  intro m hm
  rw [h m (List.mem_cons_of_mem _ (List.mem_append_right _ hm)), mem_inside_node]
  refine or_iff_right ?_
  rintro (⟨below, -⟩ | below)
  · exact apart.disjoint m below hm
  · exact apart.disjoint m (inside_subset below) hm

/-- Elements outside of the nodes that satisfy `p` keep their places. -/
theorem off_remnantsUnder (h : Lists p s f) (distinct : f.stamps.Nodup) :
    off s (remnantsUnder p d f) = elements d (prune p f) := by
  induction f generalizing d with
  | nil => rfl
  | node n item kids next ihKids ihNext =>
    have apart := apart_of_nodup distinct
    rw [remnantsUnder, off_append, off_append, ihNext (h.after apart) apart.after]
    by_cases cut : p item = true
    · have gone : off s (remnantsUnder p 1 kids) = [] :=
        off_of_mem fun x hx => (h.below apart (stamp_remnantsUnder hx)).2 (.inl cut)
      rw [if_pos cut, if_pos cut, prune_pos cut, gone]
      rfl
    · have kept : off s (own n d (prune p kids) item) = own n d (prune p kids) item :=
        off_of_not_mem fun x hx => stamp_own hx ▸ h.here apart
      have below : Lists p s kids := fun m hm => (h.below apart hm).trans (or_iff_right cut)
      rw [if_neg cut, if_neg cut, prune_neg cut, elements_node, kept, ihKids below apart.below]

theorem off_remnants (h : Lists p s f) (distinct : f.stamps.Nodup) :
    off s (remnants p f) = (prune p f).inner := by
  induction f with
  | nil => rfl
  | node n item kids next _ ih =>
    have apart := apart_of_nodup distinct
    show off s (remnantsUnder p 1 kids ++ remnants p next) = _
    rw [off_append, ih (h.after apart) apart.after]
    by_cases cut : p item = true
    · rw [prune_pos cut,
        off_of_mem fun x hx => (h.below apart (stamp_remnantsUnder hx)).2 (.inl cut)]
      rfl
    · have below : Lists p s kids := fun m hm => (h.below apart hm).trans (or_iff_right cut)
      rw [prune_neg cut, off_remnantsUnder below apart.below]
      rfl

end

/-! ## Order -/

theorem stamps_own_sublist (n : Nat) (item : Item) (kids : Forest) :
    ((own n d kids item).map Place.stamp).Sublist [n] := by
  cases item with
  | element e => exact List.Sublist.refl _
  | _ => exact List.nil_sublist _

theorem stamps_elements_sublist : ((elements d f).map Place.stamp).Sublist f.stamps := by
  induction f generalizing d with
  | nil => exact List.Sublist.refl _
  | node n item kids next ihKids ihNext =>
    rw [elements_node, List.map_append, List.map_append]
    exact (stamps_own_sublist n item kids).append (ihKids.append ihNext)

theorem stamps_inner_sublist : (f.inner.map Place.stamp).Sublist f.stamps := by
  induction f with
  | nil => exact List.Sublist.refl _
  | node n item kids next _ ih =>
    show ((elements 1 kids ++ next.inner).map Place.stamp).Sublist _
    rw [List.map_append]
    exact (stamps_elements_sublist.append ih).cons n

theorem stamps_prune_sublist : (f.prune p).stamps.Sublist f.stamps := by
  induction f with
  | nil => exact List.Sublist.refl _
  | node n item kids next ihKids ihNext =>
    by_cases cut : p item = true
    · rw [prune_pos cut]
      exact (ihNext.trans (List.sublist_append_right _ _)).cons n
    · rw [prune_neg cut]
      exact (ihKids.append ihNext).cons_cons n

theorem perm_places (f : Forest) : f.places.Perm f.inner := List.mergeSort_perm _ _

theorem sorted_places (f : Forest) : f.places.Pairwise (·.stamp ≤ ·.stamp) :=
  (List.pairwise_mergeSort (by grind) (by grind) f.inner).imp of_decide_eq_true

theorem nodup_stamp_places (distinct : f.stamps.Nodup) : (f.places.map Place.stamp).Nodup :=
  ((perm_places f).map _).nodup_iff.2 (stamps_inner_sublist.nodup distinct)

theorem places_of_sorted (h : f.inner.Pairwise (·.stamp ≤ ·.stamp)) : f.places = f.inner :=
  List.mergeSort_of_pairwise (h.imp decide_eq_true)

/-- A list in the order of distinct keys is known from its members. -/
theorem eq_of_sorted_key {α : Type} (key : α → Nat) {xs ys : List α} (perm : xs.Perm ys)
    (hx : xs.Pairwise (key · ≤ key ·)) (hy : ys.Pairwise (key · ≤ key ·))
    (distinct : (ys.map key).Nodup) : xs = ys :=
  perm.eq_of_pairwise
    (fun _ _ ha hb hab hba =>
      List.inj_on_of_nodup_map distinct (perm.mem_iff.1 ha) hb (Nat.le_antisymm hab hba)) hx hy

/-! ## Selection -/

/-- The elements that `q` asks for and that are not severed themselves. -/
def left (p : Item → Bool) (q : Element → Bool) (f : Forest) : List Place :=
  (f.select q).filter fun x => !p (.element x.element)

/-- What is selected among the severed nodes: the elements that were not severed themselves,
each without the nodes that satisfy `p`. -/
theorem parts_select_sever (p : Item → Bool) (q : Element → Bool) (distinct : f.stamps.Nodup) :
    ((f.sever p).select q).map Place.parts =
      (f.left p q).map fun x => (x.stamp, x.element, x.kids.prune p) := by
  have all : (f.sever p).places.map Place.parts =
      (f.places.filter fun x => !p (.element x.element)).map
        fun x => (x.stamp, x.element, x.kids.prune p) := by
    refine eq_of_sorted_key Prod.fst ?_ ?_ ?_ ?_
    · calc (f.sever p).places.map Place.parts
          ~ (remnants p f).map Place.parts := ((perm_places _).trans perm_remnants).map _
        _ = _ := parts_remnants
        _ ~ _ := ((perm_places f).filter _).symm.map _
    · exact List.pairwise_map.2 (sorted_places _)
    · exact List.pairwise_map.2 ((sorted_places f).filter _)
    · rw [List.map_map]
      exact (List.filter_sublist.map Place.stamp).nodup (nodup_stamp_places distinct)
  let hit : Nat × Element × Forest → Bool := fun x => q x.2.1
  calc ((f.sever p).select q).map Place.parts
      = ((f.sever p).places.map Place.parts).filter hit := by rw [List.filter_map]; rfl
    _ = ((f.places.filter fun x => !p (.element x.element)).filter fun x => q x.element).map
          fun x => (x.stamp, x.element, x.kids.prune p) := by rw [all, List.filter_map]; rfl
    _ = _ := by rw [List.filter_comm]; rfl

/-- Of what is selected among the severed nodes, that outside of them is what is selected
without their trees. -/
theorem select_sever_outside (p : Item → Bool) (q : Element → Bool) (distinct : f.stamps.Nodup) :
    off (f.inside p) ((f.sever p).select q) = (f.prune p).select q := by
  have all : off (f.inside p) (f.sever p).places = (f.prune p).places := by
    refine eq_of_sorted_key Place.stamp ?_ ((sorted_places _).filter _) (sorted_places _)
      (nodup_stamp_places (stamps_prune_sublist.nodup distinct))
    have inner : off (f.inside p) (remnants p f) = (f.prune p).inner :=
      off_remnants (fun _ _ => Iff.rfl) distinct
    calc off (f.inside p) (f.sever p).places
        ~ off (f.inside p) (remnants p f) := ((perm_places _).trans perm_remnants).filter _
      _ = (f.prune p).inner := inner
      _ ~ (f.prune p).places := (perm_places _).symm
  rw [select, select, ← all]
  exact List.filter_comm ..

/-- The same is selected as without the trees of the severed nodes, unless an element that is
looked for lies in one. -/
theorem select_sever_eq_iff (p : Item → Bool) (q : Element → Bool) (distinct : f.stamps.Nodup) :
    (f.sever p).select q = (f.prune p).select q ↔ ∀ x ∈ f.left p q, x.stamp ∉ f.inside p := by
  have stamps : ((f.sever p).select q).map Place.stamp = (f.left p q).map Place.stamp := by
    have := congrArg (List.map Prod.fst) (parts_select_sever p q distinct)
    rwa [List.map_map, List.map_map] at this
  rw [← select_sever_outside p q distinct, eq_comm, off, List.filter_eq_self]
  calc (∀ x ∈ (f.sever p).select q, decide (x.stamp ∉ f.inside p) = true)
      ↔ ∀ n ∈ ((f.sever p).select q).map Place.stamp, n ∉ f.inside p := by simp
    _ ↔ ∀ n ∈ (f.left p q).map Place.stamp, n ∉ f.inside p := by rw [stamps]
    _ ↔ ∀ x ∈ f.left p q, x.stamp ∉ f.inside p := List.forall_mem_map

end Forest

end SiteWalk.Html

import Mathlib.Data.List.Nodup
import SiteWalk.Html.Arena

/-!
# Parents and children

The children of a node name it as their parent, and no node is a child twice.  Every way to
move nodes keeps this, so a node is in one place at most.

    k ∈ a.kids p → a.parent? k = some p
-/

namespace SiteWalk.Html.Arena

variable {a : Arena} {n m p q k : Nat} {item : Item} {s : String}

/-- How many nodes there are. -/
def size (a : Arena) : Nat := a.slots.size

/-- A node is a child of its parent alone, and once. -/
structure Linked (a : Arena) : Prop where
  parent_of_mem : ∀ {p k}, k ∈ a.kids p → a.parent? k = some p
  nodup : ∀ p, (a.kids p).toList.Nodup

/-! ## Slots -/

def slot (a : Arena) (n : Nat) : Slot := a.slots.getD n default

theorem slot_of_size_le (h : a.size ≤ n) : a.slot n = default := by
  rw [slot, Array.getD_eq_getD_getElem?, Array.getElem?_eq_none h]
  rfl

@[simp] theorem size_modify (a : Arena) (n : Nat) (f : Slot → Slot) :
    (a.modify n f).size = a.size :=
  Array.size_modify

theorem slot_modify (a : Arena) (n m : Nat) (f : Slot → Slot) :
    (a.modify n f).slot m = if m = n ∧ n < a.size then f (a.slot m) else a.slot m := by
  simp only [slot, modify, size, Array.getD_eq_getD_getElem?, Array.getElem?_modify]
  by_cases h : n = m
  · subst h
    by_cases inside : n < a.slots.size <;> simp [inside]
  · simp [h, Ne.symm h]

/-- There is nothing above or below a number that no node has. -/
theorem lt_size_of_parent (h : a.parent? n = some p) : n < a.size := by
  by_contra out
  have : (a.slot n).parent = some p := h
  rw [slot_of_size_le (Nat.le_of_not_lt out)] at this
  cases this

theorem kids_of_size_le (h : a.size ≤ n) : a.kids n = #[] := by
  show (a.slot n).kids = #[]
  rw [slot_of_size_le h]
  rfl

theorem Linked.lt_size (h : a.Linked) (hk : k ∈ a.kids p) : k < a.size :=
  lt_size_of_parent (h.parent_of_mem hk)

/-- Links stay when parents and children stay. -/
theorem Linked.congr {b : Arena} (h : a.Linked) (kids : ∀ p, b.kids p = a.kids p)
    (parent : ∀ k, b.parent? k = a.parent? k) : b.Linked where
  parent_of_mem hk := by
    rw [parent]
    exact h.parent_of_mem (kids _ ▸ hk)
  nodup p := kids p ▸ h.nodup p

/-! ## New nodes -/

@[simp] theorem size_add (a : Arena) (item : Item) : (a.add item).2.size = a.size + 1 :=
  Array.size_push ..

theorem add_lt (a : Arena) (item : Item) : (a.add item).1 < (a.add item).2.size := by
  rw [size_add]
  exact Nat.lt_succ_self _

theorem slot_add (a : Arena) (item : Item) (m : Nat) :
    (a.add item).2.slot m = if m = a.size then ⟨item, none, #[]⟩ else a.slot m := by
  simp only [slot, add, size, Array.getD_eq_getD_getElem?, Array.getElem?_push]
  split <;> rfl

theorem linked_start : start.Linked := by
  have empty (p : Nat) : start.kids p = #[] := by
    cases p with
    | zero => rfl
    | succ p => exact kids_of_size_le (Nat.le_add_left 1 p)
  exact ⟨fun hk => by simp [empty] at hk, fun p => by simp [empty]⟩

theorem Linked.add (h : a.Linked) (item : Item) : (a.add item).2.Linked := by
  have new : a.slot a.size = default := slot_of_size_le (Nat.le_refl _)
  refine h.congr (fun p => ?_) (fun k => ?_)
  · show ((a.add item).2.slot p).kids = (a.slot p).kids
    rw [slot_add]
    split
    · simp_all; rfl
    · rfl
  · show ((a.add item).2.slot k).parent = (a.slot k).parent
    rw [slot_add]
    split
    · simp_all; rfl
    · rfl

/-! ## Attributes and text -/

/-- Changes to what nodes hold leave the links. -/
theorem Linked.modify (h : a.Linked) {f : Slot → Slot} (parent : ∀ s, (f s).parent = s.parent)
    (kids : ∀ s, (f s).kids = s.kids) : (a.modify n f).Linked := by
  refine h.congr (fun p => ?_) (fun k => ?_)
  · show ((a.modify n f).slot p).kids = (a.slot p).kids
    rw [slot_modify, apply_ite Slot.kids, kids, ite_id]
  · show ((a.modify n f).slot k).parent = (a.slot k).parent
    rw [slot_modify, apply_ite Slot.parent, parent, ite_id]

@[simp] theorem size_addAttrs (a : Arena) (n : Nat) (attrs : List Attr) :
    (a.addAttrs n attrs).size = a.size :=
  size_modify ..

theorem Linked.addAttrs (h : a.Linked) (attrs : List Attr) : (a.addAttrs n attrs).Linked := by
  refine h.modify (fun s => ?_) (fun s => ?_) <;> split <;> rfl

theorem extendText?_eq_some {b : Arena} (h : a.extendText? n s = some b) :
    ∃ t, b = a.modify n fun slot => { slot with item := .text t } := by
  rw [extendText?] at h
  split at h <;> cases h
  exact ⟨_, rfl⟩

/-! ## Moves -/

/-- Gives a node a parent, whose children become `g` of them. -/
def attach (a : Arena) (p n : Nat) (g : Array Nat → Array Nat) : Arena :=
  (a.modify p fun s => { s with kids := g s.kids }).modify n fun s => { s with parent := some p }

@[simp] theorem size_attach (g : Array Nat → Array Nat) : (a.attach p n g).size = a.size := by
  simp [attach]

theorem kids_attach (a : Arena) (p n q : Nat) (g : Array Nat → Array Nat) :
    (a.attach p n g).kids q = if q = p ∧ p < a.size then g (a.kids q) else a.kids q := by
  show ((a.attach p n g).slot q).kids = if _ then g (a.slot q).kids else (a.slot q).kids
  rw [attach, slot_modify, slot_modify]
  split <;> split <;> rfl

theorem parent_attach (g : Array Nat → Array Nat) (h : n < a.size) :
    (a.attach p n g).parent? m = if m = n then some p else a.parent? m := by
  show ((a.attach p n g).slot m).parent = if _ then _ else (a.slot m).parent
  rw [attach, slot_modify, slot_modify, size_modify]
  split <;> split <;> simp_all

/-- A node without a parent may be put among the children of any node. -/
theorem Linked.attach {g : Array Nat → Array Nat} (h : a.Linked) (inside : n < a.size)
    (loose : ∀ q, n ∉ a.kids q) (mem : ∀ k ∈ g (a.kids p), k = n ∨ k ∈ a.kids p)
    (nodup : (g (a.kids p)).toList.Nodup) : (a.attach p n g).Linked where
  parent_of_mem {q k} hk := by
    have stays (old : k ∈ a.kids q) : (a.attach p n g).parent? k = some q := by
      rw [parent_attach g inside, if_neg fun (new : k = n) => loose q (new ▸ old)]
      exact h.parent_of_mem old
    rw [kids_attach] at hk
    split at hk
    · rename_i here
      rcases here with ⟨rfl, -⟩
      rcases mem k hk with rfl | hk
      · rw [parent_attach g inside, if_pos rfl]
      · exact stays hk
    · exact stays hk
  nodup q := by
    rw [kids_attach]
    split
    · rename_i here
      exact here.1 ▸ nodup
    · exact h.nodup q

@[simp] theorem size_detach (a : Arena) (n : Nat) : (a.detach n).size = a.size := by
  rw [detach]
  split <;> simp

theorem parent_detach (a : Arena) (n m : Nat) :
    (a.detach n).parent? m = if m = n then none else a.parent? m := by
  rw [detach]
  split
  · split
    · simp_all
    · rfl
  · rename_i p hp
    have inside := lt_size_of_parent hp
    show (slot _ m).parent = if _ then _ else (a.slot m).parent
    rw [slot_modify, slot_modify, size_modify]
    split <;> split <;> simp_all

/-- A node that is taken from its parent is gone from the children of all nodes. -/
theorem Linked.kids_detach (h : a.Linked) (n q : Nat) :
    (a.detach n).kids q = (a.kids q).filter (· != n) := by
  have other (hq : a.parent? n ≠ some q) : (a.kids q).filter (· != n) = a.kids q := by
    refine Array.filter_eq_self.2 fun k hk => bne_iff_ne.2 ?_
    rintro rfl
    exact hq (h.parent_of_mem hk)
  rw [detach]
  split
  · rename_i hp
    rw [other (by simp [hp])]
  · rename_i p hp
    show (slot _ q).kids = ((a.slot q).kids.filter _)
    rw [slot_modify, apply_ite Slot.kids, ite_id, slot_modify, apply_ite Slot.kids]
    split
    · rfl
    · rename_i out
      by_cases here : q = p
      · rw [slot_of_size_le (by omega)]
        rfl
      · exact (other (by simpa [hp] using Ne.symm here)).symm

theorem Linked.detach (h : a.Linked) (n : Nat) : (a.detach n).Linked where
  parent_of_mem {p k} hk := by
    rw [h.kids_detach, Array.mem_filter, bne_iff_ne] at hk
    rw [parent_detach, if_neg hk.2]
    exact h.parent_of_mem hk.1
  nodup p := by
    rw [h.kids_detach, Array.toList_filter]
    exact (h.nodup p).filter _

theorem Linked.not_mem_detach (h : a.Linked) (n q : Nat) : n ∉ (a.detach n).kids q := by
  rw [h.kids_detach, Array.mem_filter]
  simp

theorem append_eq (a : Arena) (p n : Nat) :
    a.append p n = (a.detach n).attach p n (·.push n) := rfl

@[simp] theorem size_append (a : Arena) (p n : Nat) : (a.append p n).size = a.size := by
  simp [append_eq]

theorem Linked.append (h : a.Linked) (inside : n < a.size) (p : Nat) : (a.append p n).Linked := by
  have loose := h.not_mem_detach n
  rw [append_eq]
  refine (h.detach n).attach (by simpa using inside) loose (fun k hk => ?_) ?_
  · exact (Array.mem_push.1 hk).symm
  · rw [Array.toList_push]
    refine ((h.detach n).nodup p).append (List.nodup_singleton n) fun k hk new => ?_
    rw [List.mem_singleton.1 new] at hk
    exact loose p (Array.mem_toList_iff.1 hk)

/-- The list with `n` put before each `m`. -/
def putBefore (m n : Nat) (kids : List Nat) : List Nat :=
  kids.flatMap fun k => if k == m then [n, k] else [k]

theorem mem_putBefore {kids : List Nat} (h : k ∈ putBefore m n kids) : k = n ∨ k ∈ kids := by
  obtain ⟨l, hl, hk⟩ := List.mem_flatMap.1 h
  split at hk
  · simp_all; grind
  · simp_all

theorem putBefore_of_not_mem {kids : List Nat} (h : m ∉ kids) : putBefore m n kids = kids := by
  induction kids with
  | nil => rfl
  | cons k kids ih =>
    rw [List.mem_cons, not_or] at h
    show (if k == m then [n, k] else [k]) ++ putBefore m n kids = _
    rw [ih h.2, if_neg (by simpa using Ne.symm h.1)]
    rfl

theorem nodup_putBefore {kids : List Nat} (nodup : kids.Nodup) (new : n ∉ kids) :
    (putBefore m n kids).Nodup := by
  induction kids with
  | nil => exact List.nodup_nil
  | cons k kids ih =>
    obtain ⟨first, rest⟩ := List.nodup_cons.1 nodup
    show ((if k == m then [n, k] else [k]) ++ putBefore m n kids).Nodup
    split
    · rename_i here
      rw [putBefore_of_not_mem (beq_iff_eq.1 here ▸ first)]
      exact List.nodup_cons.2 ⟨new, nodup⟩
    · rw [List.mem_cons, not_or] at new
      refine List.nodup_cons.2 ⟨fun again => ?_, ih rest new.2⟩
      exact (mem_putBefore again).elim (fun same => new.1 same.symm) first

theorem insertBefore_eq (a : Arena) (m n : Nat) :
    a.insertBefore m n =
      match (a.detach n).parent? m with
      | none => a.detach n
      | some p =>
        (a.detach n).attach p n fun kids =>
          kids.flatMap fun k => if k == m then #[n, k] else #[k] := rfl

@[simp] theorem size_insertBefore (a : Arena) (m n : Nat) : (a.insertBefore m n).size = a.size := by
  rw [insertBefore_eq]
  split <;> simp

theorem Linked.insertBefore (h : a.Linked) (inside : n < a.size) (m : Nat) :
    (a.insertBefore m n).Linked := by
  rw [insertBefore_eq]
  split
  · exact h.detach n
  · rename_i p hp
    have loose := h.not_mem_detach n
    have list : (((a.detach n).kids p).flatMap fun k => if k == m then #[n, k] else #[k]).toList =
        putBefore m n ((a.detach n).kids p).toList := by
      rw [Array.toList_flatMap, putBefore]
      congr 1
      funext k
      split <;> rfl
    refine (h.detach n).attach (by simpa using inside) loose (fun k hk => ?_) ?_
    · rw [← Array.mem_toList_iff, list] at hk
      exact (mem_putBefore hk).imp_right Array.mem_toList_iff.1
    · rw [list]
      exact nodup_putBefore ((h.detach n).nodup p) fun hn => loose p (Array.mem_toList_iff.1 hn)

/-! ## Text and children -/

/-- Text that joins text changes no link. -/
theorem Linked.extend {b : Arena} {o : Option Nat} (h : a.Linked)
    (joined : o.bind (a.extendText? · s) = some b) : b.Linked ∧ a.size ≤ b.size := by
  obtain ⟨k, -, hk⟩ := Option.bind_eq_some_iff.1 joined
  obtain ⟨t, rfl⟩ := extendText?_eq_some hk
  exact ⟨h.modify (fun _ => rfl) (fun _ => rfl), by simp⟩

theorem Linked.appendText (h : a.Linked) (p : Nat) (s : String) :
    (a.appendText p s).Linked ∧ a.size ≤ (a.appendText p s).size := by
  rw [Arena.appendText]
  split
  · rename_i b hb
    exact h.extend hb
  · exact ⟨(h.add _).append (add_lt ..) p, by simp⟩

theorem Linked.insertTextBefore (h : a.Linked) (m : Nat) (s : String) :
    (a.insertTextBefore m s).Linked ∧ a.size ≤ (a.insertTextBefore m s).size := by
  rw [Arena.insertTextBefore]
  split
  · rename_i b hb
    exact h.extend hb
  · exact ⟨(h.add _).insertBefore (add_lt ..) m, by simp⟩

theorem Linked.moveKids (h : a.Linked) (source target : Nat) :
    (a.moveKids source target).Linked ∧ (a.moveKids source target).size = a.size := by
  have inside (k : Nat) (hk : k ∈ (a.kids source).toList) : k < a.size :=
    h.lt_size (Array.mem_toList_iff.1 hk)
  rw [Arena.moveKids, ← Array.foldl_toList]
  generalize (a.kids source).toList = kids at inside
  induction kids generalizing a with
  | nil => exact ⟨h, rfl⟩
  | cons k kids ih =>
    have first := h.append (inside k List.mem_cons_self) target
    obtain ⟨linked, size⟩ := ih first fun j hj => by
      simpa using inside j (List.mem_cons_of_mem _ hj)
    exact ⟨linked, size.trans (size_append ..)⟩

end SiteWalk.Html.Arena

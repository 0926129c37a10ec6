import SiteWalk.Proofs.Html.Linked
import SiteWalk.Proofs.Html.Severed

/-!
# Distinct stamps

In a forest that is made of linked nodes every node is found once.  From each node there is
one way up to a root, so nodes of one depth have nothing below them in common.

    m is below n,  n at depth h  →  m climbs to n, and is at depth i + h for some i
-/

namespace SiteWalk.Html

namespace Arena

variable {a : Arena} {d h i j k m n : Nat}

/-! ## Up -/

/-- The node that is reached from another by so many steps to the parent. -/
def up (a : Arena) : Nat → Nat → Option Nat
  | 0, n => some n
  | i + 1, n => (up a i n).bind a.parent?

theorem up_add (a : Arena) (i h n : Nat) : a.up (i + h) n = (a.up i n).bind (a.up h) := by
  induction h with
  | zero => cases a.up i n <;> rfl
  | succ h ih =>
    show (a.up (i + h) n).bind a.parent? = (a.up i n).bind fun k => (a.up h k).bind a.parent?
    rw [ih, Option.bind_assoc]

/-- The node has exactly so many nodes above it. -/
structure Deep (a : Arena) (h n : Nat) : Prop where
  isSome : (a.up h n).isSome
  root : a.up (h + 1) n = none

theorem Deep.unique (hn : a.Deep h n) (hn' : a.Deep i n) : h = i := by
  have below {h i : Nat} (hn : a.Deep h n) (hn' : a.Deep i n) : i ≤ h := by
    by_contra lt
    have ends : a.up (h + 1 + (i - (h + 1))) n = none := by
      rw [up_add, hn.root]
      rfl
    rw [Nat.add_sub_of_le (Nat.lt_of_not_le lt)] at ends
    simpa [ends] using hn'.isSome
  exact Nat.le_antisymm (below hn' hn) (below hn hn')

theorem Deep.climb (hn : a.Deep h n) (up : a.up i m = some n) : a.Deep (i + h) m := by
  have above (j : Nat) : a.up (i + j) m = a.up j n := by
    rw [up_add, up]
    rfl
  exact ⟨by rw [above]; exact hn.isSome, by rw [Nat.add_assoc, above]; exact hn.root⟩

theorem deep_zero (h : a.parent? n = none) : a.Deep 0 n := ⟨rfl, h⟩

/-! ## Below -/

/-- The nodes of the tree below a node, to a depth. -/
def below (a : Arena) : Nat → Nat → List Nat
  | 0, n => [n]
  | d + 1, n => n :: (a.kids n).toList.flatMap (below a d)

theorem stamps_foldr {tree : Nat → Forest → Forest} {nodes : Nat → List Nat}
    (h : ∀ n next, (tree n next).stamps = nodes n ++ next.stamps) (ns : List Nat) :
    (ns.foldr tree .nil).stamps = ns.flatMap nodes := by
  induction ns with
  | nil => rfl
  | cons n ns ih => rw [List.foldr_cons, h, ih, List.flatMap_cons]

theorem stamps_tree (a : Arena) (d n : Nat) (next : Forest) :
    (a.tree d n next).stamps = a.below d n ++ next.stamps := by
  induction d generalizing n next with
  | zero => rfl
  | succ d ih =>
    show n :: (((a.kids n).foldr (a.tree d) .nil).stamps ++ next.stamps) = _
    rw [← Array.foldr_toList, stamps_foldr ih]
    rfl

theorem stamps_forest (a : Arena) :
    a.forest.stamps =
      ((List.range a.size).filter fun n => (a.parent? n).isNone).flatMap (a.below a.size) := by
  rw [forest, ← List.foldr_filter]
  exact stamps_foldr (stamps_tree a _) _

variable (linked : a.Linked)

include linked

theorem Linked.up_of_mem_below (hm : m ∈ a.below d n) : ∃ i, a.up i m = some n := by
  induction d generalizing n with
  | zero => exact ⟨0, congrArg some (List.mem_singleton.1 hm)⟩
  | succ d ih =>
    rcases List.mem_cons.1 hm with rfl | hm
    · exact ⟨0, rfl⟩
    · obtain ⟨k, hk, hm⟩ := List.mem_flatMap.1 hm
      obtain ⟨i, up⟩ := ih hm
      refine ⟨i + 1, ?_⟩
      rw [Arena.up, up]
      exact linked.parent_of_mem (Array.mem_toList_iff.1 hk)

/-- A node has one ancestor of each depth. -/
theorem Linked.disjoint_below (hn : a.Deep h n) (hk : a.Deep h k) (ne : n ≠ k) :
    List.Disjoint (a.below d n) (a.below d k) := by
  intro m hm hm'
  obtain ⟨i, up⟩ := linked.up_of_mem_below hm
  obtain ⟨j, up'⟩ := linked.up_of_mem_below hm'
  have same : i = j := Nat.add_right_cancel ((hn.climb up).unique (hk.climb up'))
  subst same
  exact ne (Option.some.inj (up.symm.trans up'))

theorem Linked.deep_of_mem_kids (hn : a.Deep h n) (hk : k ∈ a.kids n) : a.Deep (1 + h) k :=
  hn.climb (linked.parent_of_mem hk)

theorem Linked.nodup_below (hn : a.Deep h n) : (a.below d n).Nodup := by
  induction d generalizing h n with
  | zero => exact List.nodup_singleton n
  | succ d ih =>
    have deep {k : Nat} (hk : k ∈ (a.kids n).toList) : a.Deep (1 + h) k :=
      linked.deep_of_mem_kids hn (Array.mem_toList_iff.1 hk)
    refine List.nodup_cons.2 ⟨fun again => ?_, List.nodup_flatMap.2 ⟨fun k hk => ih (deep hk), ?_⟩⟩
    · obtain ⟨k, hk, hn'⟩ := List.mem_flatMap.1 again
      obtain ⟨i, up⟩ := linked.up_of_mem_below hn'
      have := hn.unique ((deep hk).climb up)
      omega
    · exact (linked.nodup n).imp_of_mem
        fun hk hk' ne => linked.disjoint_below (deep hk) (deep hk') ne

/-- No node is found twice in the trees of linked nodes. -/
theorem Linked.nodup_stamps : a.forest.stamps.Nodup := by
  have deep {n : Nat} (hn : n ∈ (List.range a.size).filter fun n => (a.parent? n).isNone) :
      a.Deep 0 n :=
    deep_zero (Option.isNone_iff_eq_none.1 (List.mem_filter.1 hn).2)
  rw [stamps_forest]
  refine List.nodup_flatMap.2 ⟨fun n hn => linked.nodup_below (deep hn), ?_⟩
  exact (List.nodup_range.filter _).imp_of_mem
    fun hn hk ne => linked.disjoint_below (deep hn) (deep hk) ne

end Arena

end SiteWalk.Html

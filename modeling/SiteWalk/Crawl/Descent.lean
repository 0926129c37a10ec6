/-!
# Descent of work lists

A list of depths shrinks when its first member is replaced by any number of
smaller ones, and others may drop out.  This cannot go on for ever, which is why
loops over work lists end however many nodes a node brings in.
-/

namespace SiteWalk.Crawl

/-- `l'` is `l` with its head replaced by smaller numbers, and others dropped. -/
inductive Shrinks : List Nat → List Nat → Prop where
  | intro {d : Nat} {new rest rest' : List Nat} (kept : rest'.Sublist rest)
      (less : ∀ n ∈ new, n < d) : Shrinks (new ++ rest') (d :: rest)

/-- Every list that a list contains is accessible. -/
def Settles (l : List Nat) : Prop := ∀ l', l'.Sublist l → Acc Shrinks l'

theorem Settles.sublist {l l' : List Nat} (h : Settles l) (hs : l'.Sublist l) : Settles l' :=
  fun _ h' => h _ (h'.trans hs)

theorem settles_nil : Settles [] := by
  intro l' h
  rw [List.sublist_nil.1 h]
  exact ⟨_, fun _ hr => nomatch hr⟩

theorem settles_append {d : Nat}
    (ih : ∀ m, m < d → ∀ l, Settles l → Settles (m :: l)) {new l : List Nat}
    (less : ∀ n ∈ new, n < d) (h : Settles l) : Settles (new ++ l) := by
  induction new with
  | nil => exact h
  | cons n r ihr =>
    exact ih n (less n List.mem_cons_self) _ (ihr fun m hm => less m (List.mem_cons_of_mem n hm))

theorem settles_cons (d : Nat) : ∀ l, Settles l → Settles (d :: l) := by
  induction d using Nat.strongRecOn with
  | ind d ih =>
    intro l h l' hl'
    rcases List.sublist_cons_iff.1 hl' with hs | ⟨r, rfl, hr⟩
    · exact h _ hs
    · refine ⟨_, fun m hm => ?_⟩
      cases hm with
      | intro kept less =>
        exact settles_append ih less (h.sublist (kept.trans hr)) _ (List.Sublist.refl _)

theorem settles (l : List Nat) : Settles l := by
  induction l with
  | nil => exact settles_nil
  | cons d r ih => exact settles_cons d r ih

theorem shrinks_wf : WellFounded Shrinks :=
  ⟨fun l => settles l l (List.Sublist.refl l)⟩

instance shrinksWellFounded : WellFoundedRelation (List Nat) := ⟨Shrinks, shrinks_wf⟩

end SiteWalk.Crawl

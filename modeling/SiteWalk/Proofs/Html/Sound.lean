import Mathlib
import SiteWalk.Html.Build.Run
import SiteWalk.Proofs.Html.Linked

/-!
# Sound states

Whatever is placed while a document is built, the nodes stay linked, and the elements that
are open are nodes.
-/

namespace SiteWalk.Html.Build

open Std.Do

set_option mvcgen.warning false

/-! ## States -/

/-- The nodes are linked, and those that are open, and the head, are among them. -/
structure State.Sound (s : State) : Prop where
  linked : s.arena.Linked
  opened : ∀ n ∈ s.opened, n < s.arena.size
  head : ∀ n ∈ s.head, n < s.arena.size

/-- The state is sound. -/
abbrev sound : Assertion (.arg State .pure) := fun s => ⌜s.Sound⌝

/-- The state is sound, and there is a node of this number. -/
abbrev soundWith (n : Nat) : Assertion (.arg State .pure) := fun s => ⌜s.Sound ∧ n < s.arena.size⌝

namespace State.Sound

variable {s s' : State}

/-- The nodes may be linked in another way, and elements may close. -/
theorem relink (h : s.Sound) (linked : s'.arena.Linked) (size_le : s.arena.size ≤ s'.arena.size)
    (opened : s'.opened ⊆ s.opened) (head : s'.head = s.head) : s'.Sound where
  linked := linked
  opened n hn := (h.opened n (opened hn)).trans_le size_le
  head n hn := (h.head n (head ▸ hn)).trans_le size_le

/-- Elements may close. -/
theorem close (h : s.Sound) (arena : s'.arena = s.arena) (opened : s'.opened ⊆ s.opened)
    (head : s'.head = s.head) : s'.Sound :=
  h.relink (arena ▸ h.linked) (arena ▸ Nat.le_refl _) opened head

/-- All but the nodes and what is open may change. -/
theorem keep (h : s.Sound) (arena : s'.arena = s.arena) (opened : s'.opened = s.opened)
    (head : s'.head = s.head) : s'.Sound :=
  h.close arena (opened ▸ List.Subset.refl _) head

end State.Sound

/-! ## Changes -/

theorem triple_iff {α : Type} {m : Edit α} {P : State → Prop} {Q : α → State → Prop} :
    ⦃fun s => ⌜P s⌝⦄ m ⦃⇓ a s => ⌜Q a s⌝⦄ ↔ ∀ s, P s → Q (m s).1 (m s).2 := by
  rw [Triple.iff]
  exact ⟨fun h s hs => h s hs, fun h s hs => h s hs⟩

theorem bind_run {α β : Type} (m : Edit α) (f : α → Edit β) (s : State) :
    (m >>= f) s = f (m s).1 (m s).2 := rfl

theorem modify_run (f : State → State) (s : State) : (modify f : Edit Unit) s = ((), f s) := rfl

theorem get_run {β : Type} (f : State → Edit β) (s : State) : (get >>= f) s = f s s := rfl

theorem modify_sound {f : State → State} (h : ∀ s, s.Sound → (f s).Sound) :
    ⦃sound⦄ (modify f : Edit Unit) ⦃⇓ _ => sound⦄ :=
  triple_iff.2 h

theorem ite_sound {α : Type} {c : Prop} [Decidable c] {m m' : Edit α}
    (h : ⦃sound⦄ m ⦃⇓ _ => sound⦄) (h' : ⦃sound⦄ m' ⦃⇓ _ => sound⦄) :
    ⦃sound⦄ (if c then m else m') ⦃⇓ _ => sound⦄ := by
  split
  · exact h
  · exact h'

/-- What is made need not be named. -/
theorem forget {m : Edit Nat} (h : ⦃sound⦄ m ⦃⇓ n => soundWith n⦄) : ⦃sound⦄ m ⦃⇓ _ => sound⦄ :=
  triple_iff.2 fun s hs => (triple_iff.1 h s hs).1

/-! ## Open elements -/

@[spec] theorem setMode_sound (m : Mode) : ⦃sound⦄ setMode m ⦃⇓ _ => sound⦄ :=
  modify_sound fun _ h => h.keep rfl rfl rfl

@[spec] theorem notFramesetOk_sound : ⦃sound⦄ notFramesetOk ⦃⇓ _ => sound⦄ :=
  modify_sound fun _ h => h.keep rfl rfl rfl

@[spec] theorem resetMode_sound : ⦃sound⦄ resetMode ⦃⇓ _ => sound⦄ :=
  modify_sound fun _ h => h.keep rfl rfl rfl

@[spec] theorem push_sound (n : Nat) : ⦃soundWith n⦄ push n ⦃⇓ _ => soundWith n⦄ :=
  triple_iff.2 fun _ h =>
    ⟨⟨h.1.linked, List.forall_mem_cons.2 ⟨h.2, h.1.opened⟩, h.1.head⟩, h.2⟩

@[spec] theorem pop_sound : ⦃sound⦄ pop ⦃⇓ _ => sound⦄ :=
  modify_sound fun _ h => h.close rfl (List.drop_subset 1 _) rfl

@[spec] theorem removeOpened_sound (n : Nat) : ⦃sound⦄ removeOpened n ⦃⇓ _ => sound⦄ :=
  modify_sound fun _ h => h.close rfl List.erase_subset rfl

@[spec] theorem popWhile_sound (p : Element → Bool) : ⦃sound⦄ popWhile p ⦃⇓ _ => sound⦄ :=
  modify_sound fun _ h => h.close rfl (List.dropWhile_sublist _).subset rfl

@[spec] theorem popThrough_sound (p : Element → Bool) : ⦃sound⦄ popThrough p ⦃⇓ _ => sound⦄ :=
  modify_sound fun _ h =>
    h.close rfl ((List.drop_sublist 1 _).trans (List.dropWhile_sublist _)).subset rfl

@[spec] theorem popTo_sound (p : Element → Bool) : ⦃sound⦄ popTo p ⦃⇓ _ => sound⦄ :=
  modify_sound fun _ h => h.close rfl (List.dropWhile_sublist _).subset rfl

@[spec] theorem popThroughNamed_sound (name : String) :
    ⦃sound⦄ popThroughNamed name ⦃⇓ _ => sound⦄ := popThrough_sound _

@[spec] theorem closeImplied_sound : ⦃sound⦄ closeImplied ⦃⇓ _ => sound⦄ := popWhile_sound _

@[spec] theorem closeImpliedExcept_sound (name : String) :
    ⦃sound⦄ closeImpliedExcept name ⦃⇓ _ => sound⦄ := popWhile_sound _

@[spec] theorem closeParagraph_sound : ⦃sound⦄ closeParagraph ⦃⇓ _ => sound⦄ := by
  mvcgen [closeParagraph]

@[spec] theorem closeParagraphInScope_sound : ⦃sound⦄ closeParagraphInScope ⦃⇓ _ => sound⦄ := by
  mvcgen [closeParagraphInScope]

/-! ## New nodes -/

namespace State.Sound

variable {s : State} {n : Nat}

theorem add (h : s.Sound) (item : Item) : { s with arena := (s.arena.add item).2 }.Sound :=
  h.relink (h.linked.add item) (by simp) (List.Subset.refl _) rfl

theorem append (h : s.Sound) (hn : n < s.arena.size) (t : Nat) :
    { s with arena := s.arena.append t n }.Sound :=
  h.relink (h.linked.append hn t) (by simp) (List.Subset.refl _) rfl

/-- A node goes to a place. -/
theorem insertNode (h : s.Sound) (hn : n < s.arena.size) (p : Place) :
    (s.insertNode p n).Sound ∧ (s.insertNode p n).arena.size = s.arena.size := by
  unfold State.insertNode
  split
  · exact ⟨h.append hn _, Arena.size_append ..⟩
  · split
    · exact ⟨h.relink (h.linked.insertBefore hn _) (by simp) (List.Subset.refl _) rfl,
        Arena.size_insertBefore ..⟩
    · exact ⟨h.append hn _, Arena.size_append ..⟩

theorem insertText (h : s.Sound) (p : Place) (text : String) : (s.insertText p text).Sound := by
  have append (t : Nat) : State.Sound { s with arena := s.arena.appendText t text } :=
    have ⟨linked, size_le⟩ := h.linked.appendText t text
    h.relink linked size_le (List.Subset.refl _) rfl
  unfold State.insertText
  split
  · exact append _
  · rename_i table _
    split
    · have ⟨linked, size_le⟩ := h.linked.insertTextBefore table text
      exact h.relink linked size_le (List.Subset.refl _) rfl
    · exact append _

end State.Sound

/-- A new element has the next number. -/
theorem makeElement_run (v : Vocabulary) (name : String) (attrs : List Attr) {s : State}
    (h : s.Sound) :
    (makeElement v name attrs s).2.Sound ∧ (makeElement v name attrs s).1 = s.arena.size ∧
      s.arena.size < (makeElement v name attrs s).2.arena.size := by
  let e : Element := ⟨v, name, attrs⟩
  have made := h.add (.element e)
  by_cases template : e.is "template" = true
  · have both := made.add .fragment
    have run : makeElement v name attrs s = (s.arena.size, { s with
        arena := ((s.arena.add (.element e)).2.add .fragment).2.append s.arena.size _ }) :=
      if_pos template
    rw [run]
    exact ⟨both.append (Arena.add_lt _ .fragment) _, rfl, by simp⟩
  · have run : makeElement v name attrs s =
        (s.arena.size, { s with arena := (s.arena.add (.element e)).2 }) := if_neg template
    rw [run]
    exact ⟨made, rfl, Arena.add_lt ..⟩

theorem makeElement_made (v : Vocabulary) (name : String) (attrs : List Attr) :
    ⦃sound⦄ makeElement v name attrs ⦃⇓ n => soundWith n⦄ :=
  triple_iff.2 fun _ h =>
    have ⟨sound, number, size⟩ := makeElement_run v name attrs h
    ⟨sound, number ▸ size⟩

@[spec] theorem insertHere_sound (n : Nat) : ⦃soundWith n⦄ insertHere n ⦃⇓ _ => soundWith n⦄ :=
  triple_iff.2 fun _ h =>
    have ⟨sound, size⟩ := h.1.insertNode h.2 _
    ⟨sound, size ▸ h.2⟩

@[spec] theorem insertText_sound (text : String) : ⦃sound⦄ insertText text ⦃⇓ _ => sound⦄ :=
  modify_sound fun _ h => h.insertText _ _

theorem insertClosed_made (v : Vocabulary) (name : String) (attrs : List Attr) :
    ⦃sound⦄ insertClosed v name attrs ⦃⇓ n => soundWith n⦄ := by
  mvcgen [insertClosed, makeElement_made]

@[spec] theorem insertClosed_sound (v : Vocabulary) (name : String) (attrs : List Attr) :
    ⦃sound⦄ insertClosed v name attrs ⦃⇓ _ => sound⦄ :=
  forget (insertClosed_made v name attrs)

theorem insertOpened_made (v : Vocabulary) (name : String) (attrs : List Attr) :
    ⦃sound⦄ insertOpened v name attrs ⦃⇓ n => soundWith n⦄ := by
  mvcgen [insertOpened, insertClosed_made, -insertClosed_sound]

@[spec] theorem insertOpened_sound (v : Vocabulary) (name : String) (attrs : List Attr) :
    ⦃sound⦄ insertOpened v name attrs ⦃⇓ _ => sound⦄ :=
  forget (insertOpened_made v name attrs)

theorem insertTag_made (t : Tag) : ⦃sound⦄ insertTag t ⦃⇓ n => soundWith n⦄ :=
  insertOpened_made _ _ _

@[spec] theorem insertTag_sound (t : Tag) : ⦃sound⦄ insertTag t ⦃⇓ _ => sound⦄ :=
  insertOpened_sound _ _ _

@[spec] theorem insertClosedTag_sound (t : Tag) : ⦃sound⦄ insertClosedTag t ⦃⇓ _ => sound⦄ :=
  insertClosed_sound _ _ _

@[spec] theorem insertImplied_sound (name : String) :
    ⦃sound⦄ insertImplied name ⦃⇓ _ => sound⦄ := by
  mvcgen [insertImplied]

@[spec] theorem addComment_sound (parent : Nat) (text : String) :
    ⦃sound⦄ addComment parent text ⦃⇓ _ => sound⦄ :=
  modify_sound fun _ h => (h.add (.comment text)).append (Arena.add_lt ..) parent

@[spec] theorem insertComment_sound (text : String) :
    ⦃sound⦄ insertComment text ⦃⇓ _ => sound⦄ :=
  triple_iff.2 fun _ h => ((h.add (.comment text)).insertNode (Arena.add_lt ..) _).1

@[spec] theorem readRaw_sound (mode : TextMode) : ⦃sound⦄ readRaw mode ⦃⇓ _ => sound⦄ :=
  modify_sound fun _ h => h.keep rfl rfl rfl

/-! ## Formatting elements -/

@[spec] theorem pushMarker_sound : ⦃sound⦄ pushMarker ⦃⇓ _ => sound⦄ :=
  modify_sound fun _ h => h.keep rfl rfl rfl

@[spec] theorem clearToMarker_sound : ⦃sound⦄ clearToMarker ⦃⇓ _ => sound⦄ :=
  modify_sound fun _ h => h.keep rfl rfl rfl

@[spec] theorem removeFormatting_sound (n : Nat) : ⦃sound⦄ removeFormatting n ⦃⇓ _ => sound⦄ :=
  modify_sound fun _ h => h.keep rfl rfl rfl

@[spec] theorem insertFormatting_sound (t : Tag) : ⦃sound⦄ insertFormatting t ⦃⇓ _ => sound⦄ := by
  mvcgen [insertFormatting]
  all_goals rename_i h _; exact h.keep rfl rfl rfl

@[spec] theorem closeOther_sound (name : String) : ⦃sound⦄ closeOther name ⦃⇓ _ => sound⦄ := by
  mvcgen [closeOther]
  rename_i h _
  exact h.close rfl ((List.drop_sublist 1 _).trans (List.dropWhile_sublist _)).subset rfl

/-- What a round of rewrapping leaves: sound, with at least `k` nodes, and all that it answers
are among them. -/
structure Rewrapped (k : Nat) (r : (List Nat × Nat × Bookmark) × State) : Prop where
  sound : r.2.Sound
  size_le : k ≤ r.2.arena.size
  stay : ∀ m ∈ r.1.1, m < r.2.arena.size
  last : r.1.2.1 < r.2.arena.size

theorem Rewrapped.cons {k k' m : Nat} {r : (List Nat × Nat × Bookmark) × State}
    (h : Rewrapped k' r) (le : k ≤ k') (hm : m < k') : Rewrapped k ((m :: r.1.1, r.1.2), r.2) where
  sound := h.sound
  size_le := le.trans h.size_le
  stay := List.forall_mem_cons.2 ⟨hm.trans_le h.size_le, h.stay⟩
  last := h.last

theorem rewrapped (block count last : Nat) (mark : Bookmark) (between : List Nat) (s : State)
    (h : s.Sound) (hl : last < s.arena.size) :
    Rewrapped s.arena.size (rewrap block count last mark between s) := by
  induction between generalizing count last mark s with
  | nil => exact ⟨h, Nat.le_refl _, List.forall_mem_nil _, hl⟩
  | cons n r ih =>
    have same := ih (count + 1) last mark s h hl
    rw [rewrap, get_run]
    rcases s.formatting.find? (isEntryOf n) with _ | _ | ⟨_, tag⟩
    · exact same
    · exact same
    · dsimp only
      by_cases full : count ≥ 3
      · rw [if_pos full, bind_run]
        have removed : (removeFormatting n s).2.Sound := h.keep rfl rfl rfl
        exact ih (count + 1) last mark _ removed hl
      · rw [if_neg full]
        obtain ⟨made, number, size⟩ := makeElement_run .html tag.name (plainAttrs tag.attrs) h
        simp only [bind_run]
        generalize makeElement .html tag.name (plainAttrs tag.attrs) s = x at *
        have moved (formatting : List Formatting) :
            State.Sound { x.2 with formatting, arena := x.2.arena.append x.1 last } :=
          (made.append (hl.trans size) x.1).keep rfl rfl rfl
        refine (ih (count + 1) x.1 _ _ (moved _) ?_).cons ?_ ?_
        · simpa [number]
        · simpa using size.le
        · simpa [number]

theorem forIn_sound {α : Type} {f : α → Unit → Edit (ForInStep Unit)} (xs : List α)
    (h : ∀ x, ⦃sound⦄ f x () ⦃⇓ _ => sound⦄) : ⦃sound⦄ forIn xs () f ⦃⇓ _ => sound⦄ := by
  induction xs with
  | nil => exact triple_iff.2 fun _ hs => hs
  | cons x xs ih =>
    refine triple_iff.2 fun s hs => ?_
    have first := triple_iff.1 (h x) s hs
    rw [List.forIn_cons, bind_run]
    generalize f x () s = r at first
    obtain ⟨_ | _, s'⟩ := r
    · exact first
    · exact triple_iff.1 ih s' first

@[spec] theorem reconstruct_sound : ⦃sound⦄ reconstruct ⦃⇓ _ => sound⦄ := by
  mvcgen [reconstruct, forIn_sound, -Spec.forIn_list, -Spec.forIn'_list]
  case vc3 h _ => exact h.keep rfl rfl rfl
  case vc4 h _ _ _ => exact h.keep rfl rfl rfl

/-- A node is taken from its place and goes to another. -/
theorem State.Sound.move {s : State} (h : s.Sound) {n : Nat} (hn : n < s.arena.size) (p : Place) :
    (State.insertNode { s with arena := s.arena.detach n } p n).Sound ∧
      (State.insertNode { s with arena := s.arena.detach n } p n).arena.size = s.arena.size := by
  have size : (s.arena.detach n).size = s.arena.size := Arena.size_detach ..
  have cut : State.Sound { s with arena := s.arena.detach n } :=
    h.relink (h.linked.detach n) size.ge (List.Subset.refl _) rfl
  exact (cut.insertNode (size ▸ hn) p).imp_right (·.trans size)

/-- The elements inside a block move into a new one, which the block then holds. -/
theorem State.Sound.wrap {s s' : State} (h : s.Sound) (block : Nat) {m : Nat}
    (hm : m < s.arena.size)
    (arena : s'.arena = (s.arena.moveKids block m).append block m)
    (opened : ∀ n ∈ s'.opened, n < s.arena.size) (head : s'.head = s.head) : s'.Sound := by
  obtain ⟨linked, size⟩ := h.linked.moveKids block m
  have same : s'.arena.size = s.arena.size := by rw [arena, Arena.size_append, size]
  exact ⟨arena ▸ linked.append (size ▸ hm) block, same ▸ opened, same ▸ head ▸ h.head⟩

@[spec] theorem adoptOnce_sound (name : String) : ⦃sound⦄ adoptOnce name ⦃⇓ _ => sound⦄ := by
  refine triple_iff.2 fun s h => ?_
  rw [adoptOnce, get_run]
  cases (sinceMarker s.formatting).find? (·.2.name == name) with
  | none => exact triple_iff.1 (closeOther_sound name) s h
  | some entry =>
    obtain ⟨n, tag⟩ := entry
    dsimp only
    split
    · exact h.keep rfl rfl rfl
    split
    · exact h
    have aboveSub : s.opened.takeWhile (· != n) ⊆ s.opened := (List.takeWhile_sublist _).subset
    have belowSub : (s.opened.dropWhile (· != n)).drop 1 ⊆ s.opened :=
      ((List.drop_sublist 1 _).trans (List.dropWhile_sublist _)).subset
    generalize s.opened.takeWhile (· != n) = above at *
    generalize (s.opened.dropWhile (· != n)).drop 1 = below at *
    cases found : above.reverse.find? (s.elementIs (·.isIn special)) with
    | none => exact h.close rfl belowSub rfl
    | some block =>
      have inside : block < s.arena.size :=
        h.opened _ (aboveSub (List.mem_reverse.1 (List.mem_of_find?_eq_some found)))
      dsimp only
      rw [bind_run]
      generalize (above.dropWhile (· != block)).drop 1 = between
      have moved := rewrapped block 0 block .replace between s h inside
      generalize rewrap block 0 block .replace between s = r at *
      rw [bind_run, modify_run]
      generalize hp : State.insertNode _ _ _ = placed
      obtain ⟨sound, size⟩ : placed.Sound ∧ placed.arena.size = r.2.arena.size :=
        hp ▸ moved.sound.move moved.last _
      obtain ⟨made, number, more⟩ := makeElement_run .html tag.name (plainAttrs tag.attrs) sound
      rw [bind_run]
      generalize makeElement .html tag.name (plainAttrs tag.attrs) placed = x at *
      have known {j : Nat} (hj : j < s.arena.size) : j < x.2.arena.size := by
        have := moved.size_le
        omega
      have new : x.1 < x.2.arena.size := number ▸ more
      rw [bind_run, modify_run]
      show State.Sound { x.2 with
        arena := (x.2.arena.moveKids block x.1).append block x.1
        formatting := _
        opened := above.takeWhile (· != block) ++ x.1 :: block :: r.1.1 ++ below }
      refine made.wrap block new rfl (fun j hj => ?_) rfl
      rcases List.mem_append.1 hj with hj | hj
      · rcases List.mem_append.1 hj with hj | hj
        · exact known (h.opened _ (aboveSub ((List.takeWhile_sublist _).subset hj)))
        · rcases List.mem_cons.1 hj with rfl | hj
          · omega
          · rcases List.mem_cons.1 hj with rfl | hj
            · exact known inside
            · have := moved.stay j hj
              omega
      · exact known (h.opened _ (belowSub hj))

@[spec] theorem rounds_sound (name : String) (k : Nat) :
    ⦃sound⦄ adopt.rounds name k ⦃⇓ _ => sound⦄ := by
  induction k with
  | zero => exact triple_iff.2 fun _ h => h
  | succ k ih => mvcgen [adopt.rounds, ih]

@[spec] theorem adopt_sound (name : String) : ⦃sound⦄ adopt name ⦃⇓ _ => sound⦄ := by
  refine triple_iff.2 fun s h => ?_
  rw [adopt, get_run]
  exact triple_iff.1 (ite_sound pop_sound (rounds_sound name 8)) s h

end SiteWalk.Html.Build

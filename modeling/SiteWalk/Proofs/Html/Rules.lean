import SiteWalk.Proofs.Html.Distinct
import SiteWalk.Proofs.Html.Sound

/-!
# Sound rules

The rules for the tokens keep a state sound, in every mode, so what is read of a text is linked
and its nodes have distinct stamps.

    (accept t s).2 is sound if s is         (accept_sound)
    (read text).stamps has no double        (nodup_stamps_read)
-/

namespace SiteWalk.Html

namespace Build

open Std.Do

set_option mvcgen.warning false

/-! ## Foreign elements -/

@[spec] theorem enterForeign_sound (v : Vocabulary) (t : Tag) :
    ⦃sound⦄ enterForeign v t ⦃⇓ _ => sound⦄ := by
  mvcgen [enterForeign]

@[spec] theorem foreignStart_sound (t : Tag) : ⦃sound⦄ foreignStart t ⦃⇓ _ => sound⦄ := by
  mvcgen [foreignStart]

@[spec] theorem breakOut_sound (t : Tag) : ⦃sound⦄ breakOut t ⦃⇓ _ => sound⦄ := by
  mvcgen [breakOut]

/-! ## Head -/

theorem State.Sound.addAttrs {s : State} (h : s.Sound) (n : Nat) (attrs : List Attr) :
    { s with arena := s.arena.addAttrs n attrs }.Sound :=
  h.relink (h.linked.addAttrs attrs) (by simp) (List.Subset.refl _) rfl

@[spec] theorem mergeRoot_sound (t : Tag) : ⦃sound⦄ mergeRoot t ⦃⇓ _ => sound⦄ := by
  mvcgen [mergeRoot]
  rename_i s h _ _
  exact h.addAttrs s.root (plainAttrs t.attrs)

@[spec] theorem endTemplate_sound : ⦃sound⦄ endTemplate ⦃⇓ _ => sound⦄ := by
  mvcgen [endTemplate]
  have h := ‹State.Sound _›
  exact h.keep rfl rfl rfl

@[spec] theorem headStart_sound (t : Tag) : ⦃sound⦄ headStart t ⦃⇓ _ => sound⦄ := by
  mvcgen [headStart]
  have h := ‹State.Sound _›
  exact h.keep rfl rfl rfl

@[spec] theorem inHead_sound (t : Token) : ⦃sound⦄ inHead t ⦃⇓ _ => sound⦄ := by
  mvcgen [inHead]

/-! ## Body -/

@[spec] theorem endOfTemplates_sound : ⦃sound⦄ endOfTemplates ⦃⇓ _ => sound⦄ := by
  mvcgen [endOfTemplates]
  have h := ‹State.Sound _›
  exact h.keep rfl rfl rfl

@[spec] theorem endOfBody_sound : ⦃sound⦄ endOfBody ⦃⇓ _ => sound⦄ := by
  mvcgen [endOfBody]

@[spec] theorem voidStart_sound (t : Tag) : ⦃sound⦄ voidStart t ⦃⇓ _ => sound⦄ := by
  mvcgen [voidStart]

@[spec] theorem itemStart_sound (t : Tag) : ⦃sound⦄ itemStart t ⦃⇓ _ => sound⦄ := by
  mvcgen [itemStart]

/-- The root is open where a body is. -/
theorem root_mem {s : State} {n : Nat} (h : s.body? = some n) : s.root ∈ s.opened := by
  rw [State.body?] at h
  split at h
  · rename_i root _ rest opened
    have : s.opened.getLastD 0 ∈ s.opened := by
      rw [← List.reverse_reverse s.opened, opened, List.reverse_cons, List.getLastD_concat]
      exact List.mem_append_right _ List.mem_cons_self
    exact this
  · cases h

/-- The body gives way to a frameset. -/
theorem State.Sound.dropBody {s : State} (h : s.Sound) {n : Nat} (body : s.body? = some n) :
    { s with arena := s.arena.detach n, opened := [s.root] }.Sound :=
  h.relink (h.linked.detach n) (by simp) (by simpa using root_mem body) rfl

/-- A form is kept in mind outside of templates. -/
theorem State.Sound.noteForm {s : State} (h : s.Sound) (n : Nat) :
    (if s.inTemplate then s else { s with form := some n }).Sound := by
  split
  · exact h
  · exact h.keep rfl rfl rfl

@[spec] theorem bodyStart_sound (t : Tag) : ⦃sound⦄ bodyStart t ⦃⇓ _ => sound⦄ := by
  mvcgen [bodyStart]
  case vc3 s h n _ _ _ => exact (h.addAttrs n (plainAttrs t.attrs)).keep rfl rfl rfl
  case vc6 s h n body _ => exact h.dropBody body
  case vc21 n _ h _ => exact h.noteForm n
  all_goals
    have h := ‹State.Sound _›
    exact h.keep rfl rfl rfl

@[spec] theorem bodyEnd_sound (t : Tag) : ⦃sound⦄ bodyEnd t ⦃⇓ _ => sound⦄ := by
  mvcgen [bodyEnd]
  all_goals
    have h := ‹State.Sound _›
    exact h.keep rfl rfl rfl

@[spec] theorem inBody_sound (t : Token) : ⦃sound⦄ inBody t ⦃⇓ _ => sound⦄ := by
  mvcgen [inBody]

@[spec] theorem inText_sound (t : Token) : ⦃sound⦄ inText t ⦃⇓ _ => sound⦄ := by
  mvcgen [inText]
  all_goals
    have h := ‹State.Sound _›
    exact h.keep rfl rfl rfl

/-! ## Tables -/

@[spec] theorem foster_sound (t : Token) : ⦃sound⦄ foster t ⦃⇓ _ => sound⦄ := by
  mvcgen [foster]
  all_goals
    have h := ‹State.Sound _›
    exact h.keep rfl rfl rfl

@[spec] theorem tableChars_sound (t : Token) : ⦃sound⦄ tableChars t ⦃⇓ _ => sound⦄ := by
  mvcgen [tableChars]
  all_goals
    have h := ‹State.Sound _›
    exact h.keep rfl rfl rfl

@[spec] theorem inTable_sound (t : Token) : ⦃sound⦄ inTable t ⦃⇓ _ => sound⦄ := by
  mvcgen [inTable]
  all_goals
    have h := ‹State.Sound _›
    exact h.keep rfl rfl rfl

@[spec] theorem inTableText_sound (t : Token) : ⦃sound⦄ inTableText t ⦃⇓ _ => sound⦄ := by
  mvcgen [inTableText, forIn_sound, -Spec.forIn_list, -Spec.forIn'_list]
  all_goals
    have h := ‹State.Sound _›
    exact h.keep rfl rfl rfl

@[spec] theorem inCaption_sound (t : Token) : ⦃sound⦄ inCaption t ⦃⇓ _ => sound⦄ := by
  mvcgen [inCaption]

@[spec] theorem inColumnGroup_sound (t : Token) : ⦃sound⦄ inColumnGroup t ⦃⇓ _ => sound⦄ := by
  mvcgen [inColumnGroup]

@[spec] theorem inTableBody_sound (t : Token) : ⦃sound⦄ inTableBody t ⦃⇓ _ => sound⦄ := by
  mvcgen [inTableBody]

@[spec] theorem inRow_sound (t : Token) : ⦃sound⦄ inRow t ⦃⇓ _ => sound⦄ := by
  mvcgen [inRow]

@[spec] theorem inCell_sound (t : Token) : ⦃sound⦄ inCell t ⦃⇓ _ => sound⦄ := by
  mvcgen [inCell]

@[spec] theorem inSelect_sound (t : Token) : ⦃sound⦄ inSelect t ⦃⇓ _ => sound⦄ := by
  mvcgen [inSelect]

@[spec] theorem inSelectInTable_sound (t : Token) :
    ⦃sound⦄ inSelectInTable t ⦃⇓ _ => sound⦄ := by
  mvcgen [inSelectInTable]

@[spec] theorem inTemplate_sound (t : Token) : ⦃sound⦄ inTemplate t ⦃⇓ _ => sound⦄ := by
  mvcgen [inTemplate]
  all_goals
    have h := ‹State.Sound _›
    exact h.keep rfl rfl rfl

@[spec] theorem inFrameset_sound (t : Token) : ⦃sound⦄ inFrameset t ⦃⇓ _ => sound⦄ := by
  mvcgen [inFrameset]

@[spec] theorem afterFrameset_sound (t : Token) : ⦃sound⦄ afterFrameset t ⦃⇓ _ => sound⦄ := by
  mvcgen [afterFrameset]

@[spec] theorem afterBody_sound (t : Token) : ⦃sound⦄ afterBody t ⦃⇓ _ => sound⦄ := by
  mvcgen [afterBody]

@[spec] theorem afterAfterBody_sound (t : Token) : ⦃sound⦄ afterAfterBody t ⦃⇓ _ => sound⦄ := by
  mvcgen [afterAfterBody]

@[spec] theorem afterAfterFrameset_sound (t : Token) :
    ⦃sound⦄ afterAfterFrameset t ⦃⇓ _ => sound⦄ := by
  mvcgen [afterAfterFrameset]

/-! ## Before the body -/

@[spec] theorem insertRoot_sound (attrs : List (String × String)) :
    ⦃sound⦄ insertRoot attrs ⦃⇓ _ => sound⦄ := by
  mvcgen [insertRoot, makeElement_made]
  case vc3 h _ => exact h.1.append h.2 0

@[spec] theorem initial_sound (t : Token) : ⦃sound⦄ initial t ⦃⇓ _ => sound⦄ := by
  mvcgen [initial]
  have h := ‹State.Sound _›
  exact h.keep rfl rfl rfl

@[spec] theorem beforeHtml_sound (t : Token) : ⦃sound⦄ beforeHtml t ⦃⇓ _ => sound⦄ := by
  mvcgen [beforeHtml]

theorem State.Sound.noteHead {s : State} {n : Nat} (h : s.Sound ∧ n < s.arena.size) :
    { s with head := some n }.Sound :=
  ⟨h.1.linked, h.1.opened, fun _ hm => Option.mem_some_iff.1 hm ▸ h.2⟩

@[spec] theorem beforeHead_sound (t : Token) : ⦃sound⦄ beforeHead t ⦃⇓ _ => sound⦄ := by
  mvcgen [beforeHead, insertTag_made, -insertTag_sound]
  all_goals
    rename_i h _
    exact State.Sound.noteHead h

@[spec] theorem afterHead_sound (t : Token) : ⦃sound⦄ afterHead t ⦃⇓ _ => sound⦄ := by
  mvcgen [afterHead]
  case vc5 h _ => exact h.keep rfl rfl rfl
  case vc8 h n head => exact ⟨h, h.head n head⟩
  case vc9 h => exact h.1

/-! ## All tokens -/

@[spec] theorem inMode_sound (m : Mode) (t : Token) : ⦃sound⦄ inMode m t ⦃⇓ _ => sound⦄ := by
  mvcgen [inMode]

/-- The elements that stay open are above the one that the end tag closes. -/
theorem subset_of_foreignEnd {s : State} {name : String} {rest : List Nat}
    (h : s.foreignEnd name = .upTo rest) : rest ⊆ s.opened := by
  have go (first : Bool) (opened : List Nat)
      (h : State.foreignEnd.go s name first opened = .upTo rest) : rest ⊆ opened := by
    induction opened generalizing first with
    | nil => cases h
    | cons n r ih =>
      cases r with
      | nil => cases h
      | cons m r =>
        rw [State.foreignEnd.go] at h
        · split at h
          · cases h
          · split at h
            · cases h
              exact List.subset_cons_self ..
            · exact List.subset_cons_of_subset _ (ih false h)
        · simp
  exact go true s.opened h

@[spec] theorem inForeign_sound (t : Token) : ⦃sound⦄ inForeign t ⦃⇓ _ => sound⦄ := by
  mvcgen [inForeign]
  case vc10 h _ upTo => exact h.close rfl (subset_of_foreignEnd upTo) rfl

theorem place_sound (t : Token) (rounds : Nat) : ⦃sound⦄ place t rounds ⦃⇓ _ => sound⦄ := by
  induction rounds generalizing t with
  | zero => exact triple_iff.2 fun _ h => h
  | succ rounds ih => mvcgen [place, ih]

theorem accept_sound (t : Token) : ⦃sound⦄ accept t ⦃⇓ _ => sound⦄ := by
  mvcgen [accept, place_sound]
  case vc1 h d _ _ _ =>
    exact ((h.add (.doctype (d.name.getD ""))).append (Arena.add_lt ..) 0).keep rfl rfl rfl
  all_goals
    have h := ‹State.Sound _›
    exact h.keep rfl rfl rfl

/-- Each token keeps a state sound, and so does a run of them. -/
theorem sound_tokens (ts : List Token) (s : State) (h : s.Sound) :
    (ts.foldl (fun s t => (accept t s).2) s).Sound := by
  induction ts generalizing s with
  | nil => exact h
  | cons t ts ih => exact ih _ (triple_iff.1 (accept_sound t) s h)

/-- Reading a text to its end keeps a state sound. -/
theorem sound_feed (text : List Char) (s : State) (h : s.Sound) : (feed text s).Sound := by
  fun_induction feed text s with
  | case1 s => exact triple_iff.1 (accept_sound .eof) s h
  | case2 s c r step ih => exact ih (sound_tokens step.1 s h)

/-- The nodes of a document are linked. -/
theorem linked_arenaOf (text : List Char) : (arenaOf text).Linked := by
  have start : State.Sound {} :=
    ⟨Arena.linked_start, List.forall_mem_nil _, fun _ hn => by cases hn⟩
  exact (sound_feed _ _ start).linked

/-! ## Steps -/

/-- At most so many turns of lexer and rules. -/
def feedWithin : Nat → List Char → State → State
  | 0, _, s => s
  | _ + 1, [], s => (accept .eof s).2
  | n + 1, c :: r, s =>
    let step := next s.reading s.isAmongForeign c r
    feedWithin n step.2 (step.1.foldl (fun s t => (accept t s).2) s)

/-- Each turn takes a character, so there are no more turns than characters. -/
theorem feed_eq_feedWithin (n : Nat) (text : List Char) (s : State) (h : text.length < n) :
    feed text s = feedWithin n text s := by
  induction n generalizing text s with
  | zero => omega
  | succ n ih =>
    cases text with
    | nil =>
      rw [feed]
      rfl
    | cons c r =>
      rw [feed]
      have shorter := next_length s.reading s.isAmongForeign c r
      exact ih _ _ (by omega)

end Build

deriving instance DecidableEq for Forest

/-- No two nodes of a document have one stamp. -/
theorem nodup_stamps_read (text : List Char) : (read text).stamps.Nodup :=
  (Build.linked_arenaOf text).nodup_stamps

end SiteWalk.Html

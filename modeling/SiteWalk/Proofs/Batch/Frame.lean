import SiteWalk.Proofs.Batch.Slice

/-!
# What moves leave alone

A move keeps the store sound and leaves alone all runs that its entry does not concern.
So a journal names no run that is still to come.

    ¬ x.Concerns run → s'.store.stepsOf run = s.store.stepsOf run           (frame_effect)
    Trail site e J s → Kept J s.view.store                                    (kept_trail)
-/

namespace SiteWalk.Batch

open Crawl

variable {site : Web} {s s' : Session Memory} {x : Entry} {run : Int} {J : List Entry}

/-! ## Frames -/

namespace Entry.Concerns

variable {run' : Int} {asked : List String}

theorem processed {t : Step} {a : Except Failure (Option StepReport)}
    (h : Concerns run ⟨.process, some t, .processed a, asked⟩) : t.run = run := by
  simpa [Entry.Concerns, Entry.Names, Entry.Touches, Entry.on] using h

theorem started {settings : Settings} {seed : String} {flavor : Flavor} {mode : Mode}
    (h : Concerns run
      ⟨.start settings seed flavor mode, none, .started (.ok (.deferred run')), asked⟩) :
    run' = run := by
  simpa [Entry.Concerns, Entry.Names, Entry.Touches, Entry.on] using h

theorem collected {rep : Report}
    (h : Concerns run ⟨.collect run', none, .collected (.ok (some rep)), asked⟩) : run' = run := by
  simpa [Entry.Concerns, Entry.Names, Entry.Touches, Entry.on] using h

theorem calledOff {a : Except Failure Nat}
    (h : Concerns run ⟨.cancel run', none, .cancelled a, asked⟩) : run' = run := by
  simpa [Entry.Concerns, Entry.Names, Entry.Touches, Entry.on] using h

end Entry.Concerns

theorem off_of_not_concerns (h : ¬ x.Concerns run) : x.on run = false := by
  cases hon : x.on run with
  | false => rfl
  | true => exact absurd (.inl (.inr (.inl hon))) h

/-- **Every move keeps the store sound.** -/
theorem sound_effect (h : s.store.Sound) (eff : Effect site s x s') : s'.store.Sound := by
  cases eff with
  | idle => exact h
  | started => exact h.begin _
  | dropped top context => exact (h.keep _).save context
  | abandoned top context => exact h.complete context (by simp)
  | visited top context => exact h.complete context fun _ => run_of_mem_children
  | collected spent context => exact h.remove context spent
  | calledOff context => exact (h.save context).keep _

/-- A move leaves alone the contexts of the runs that it does not concern. -/
theorem context_effect (eff : Effect site s x s') (other : ¬ x.Concerns run) :
    s'.store.context? run = s.store.context? run := by
  have off := off_of_not_concerns other
  cases eff with
  | idle => rfl
  | started =>
    have hne : run ≠ s.store.lastRun + 1 := fun hr => other (.inl (.inl (by rw [hr])))
    exact Memory.context?_begin_other hne
  | @dropped q rest c o top context =>
    have hne : run ≠ q.step.run := (beq_eq_false_iff_ne.1 off).symm
    rw [Memory.context?_save (m := s.store.discard q.step.run) context, if_neg hne]
    rfl
  | abandoned top context =>
    have hne : run ≠ _ := (beq_eq_false_iff_ne.1 off).symm
    rw [Memory.context?_complete context, if_neg hne]
  | visited top context =>
    have hne : run ≠ _ := (beq_eq_false_iff_ne.1 off).symm
    rw [Memory.context?_complete context, if_neg hne]
  | collected spent context =>
    have hne : run ≠ _ := fun hr => other (.inr (.inl (by rw [hr])))
    rw [Memory.context?_remove context, if_neg hne]
  | calledOff context =>
    have hne : run ≠ _ := fun hr => other (.inr (.inr (by rw [hr])))
    rw [Memory.context?_discard, Memory.context?_save context, if_neg hne]

/-- **A move leaves alone the runs that it does not concern.** -/
theorem frame_effect (h : s.store.Sound) (eff : Effect site s x s') (other : ¬ x.Concerns run) :
    s'.store.context? run = s.store.context? run ∧
      s'.store.stepsOf run = s.store.stepsOf run := by
  refine ⟨context_effect eff other, ?_⟩
  have off := off_of_not_concerns other
  cases eff with
  | idle => rfl
  | started =>
    have hne : run ≠ s.store.lastRun + 1 := fun hr => other (.inl (.inl (by rw [hr])))
    rw [Memory.stepsOf_begin h, if_neg hne]
  | dropped top context =>
    have hne : run ≠ _ := (beq_eq_false_iff_ne.1 off).symm
    rw [Memory.stepsOf_save, Memory.stepsOf_discard, if_neg hne]
  | abandoned top context =>
    have hne : run ≠ _ := (beq_eq_false_iff_ne.1 off).symm
    rw [Memory.stepsOf_complete h top context (by simp), if_neg hne]
  | visited top context =>
    have hne : run ≠ _ := (beq_eq_false_iff_ne.1 off).symm
    rw [Memory.stepsOf_complete h top context fun _ => run_of_mem_children, if_neg hne]
  | collected => rw [Memory.stepsOf_remove]
  | calledOff context =>
    have hne : run ≠ _ := fun hr => other (.inr (.inr (by rw [hr])))
    rw [Memory.stepsOf_discard, if_neg hne, Memory.stepsOf_save]

/-! ## New runs -/

/-- A run is put into the store under the number that is next. -/
theorem started_of_effect {r : Run} (eff : Effect site s x s') (hs : x.Starts r run) :
    run = s.store.lastRun + 1 ∧ s' = ⟨s.store.begin r, s.env⟩ := by
  obtain ⟨settings, seed, hm, hp, hu, hr⟩ := hs
  cases eff with
  | idle started => exact absurd hr (started run)
  | @started settings' seed' r' hp' hu' =>
    obtain ⟨rfl, rfl, hf, -⟩ := Move.start.inj hm
    obtain ⟨p, u, f⟩ := r
    obtain ⟨p', u', f'⟩ := r'
    obtain rfl : p' = p := Except.ok.inj (hp'.symm.trans hp)
    obtain rfl : u' = u := Except.ok.inj (hu'.symm.trans hu)
    obtain rfl : f' = f := hf
    cases hr
    exact ⟨rfl, rfl⟩
  | dropped | abandoned | visited | collected | calledOff => cases hr

theorem off_of_starts {r : Run} (eff : Effect site s x s') (hs : x.Starts r run) (run' : Int) :
    x.on run' = false := by
  obtain ⟨settings, seed, hm, -⟩ := hs
  cases eff with
  | idle | started | collected | calledOff => rfl
  | dropped | abandoned | visited => cases hm

/-! ## Numbers -/

/-- The store is sound, and the journal names no run that is still to come. -/
structure Kept (J : List Entry) (m : Memory) : Prop where
  sound : m.Sound
  names_le : ∀ x ∈ J, ∀ run, x.Names run → run ≤ m.lastRun

theorem lastRun_effect (eff : Effect site s x s') : s.store.lastRun ≤ s'.store.lastRun := by
  cases eff with
  | idle => exact Int.le_refl _
  | started =>
    show s.store.lastRun ≤ s.store.lastRun + 1
    omega
  | @dropped q => exact Int.le_of_eq (Memory.lastRun_save (m := s.store.discard q.step.run)).symm
  | calledOff => exact Int.le_of_eq Memory.lastRun_save.symm
  | abandoned | visited => exact Int.le_of_eq Memory.lastRun_complete.symm
  | collected => exact Int.le_of_eq Memory.lastRun_remove.symm

/-- A run that is named is in the store, or was put into it just now. -/
theorem names_effect (sound : s.store.Sound) (eff : Effect site s x s') (h : x.Names run) :
    run ≤ s'.store.lastRun := by
  have hle := lastRun_effect eff
  cases eff with
  | idle started collected =>
    rcases h with h | h | ⟨-, rep, h⟩
    · exact absurd h (started run)
    · cases h
    · exact absurd h (collected rep)
  | started =>
    rcases h with h | h | ⟨h, -⟩
    · cases h
      exact Int.le_refl _
    · cases h
    · cases h
  | dropped top context | abandoned top context | visited top context =>
    rcases h with h | h | ⟨h, -⟩
    · cases h
    · have hr : _ = run := eq_of_beq h
      rw [← hr]
      exact Int.le_trans (sound.runs_le context) hle
    · cases h
  | collected spent context =>
    rcases h with h | h | ⟨h, -⟩
    · cases h
    · cases h
    · cases h
      exact Int.le_trans (sound.runs_le context) hle
  | calledOff context =>
    rcases h with h | h | ⟨h, -⟩ <;> cases h

theorem kept_effect (h : Kept J s.store) (eff : Effect site s x s') : Kept (J ++ [x]) s'.store := by
  refine ⟨sound_effect h.sound eff, ?_⟩
  intro y hy run hn
  rcases List.mem_append.1 hy with hy | hy
  · exact Int.le_trans (h.names_le y hy run hn) (lastRun_effect eff)
  · rw [List.mem_singleton.1 hy] at hn
    exact names_effect h.sound eff hn

/-- **Whatever is done from an empty store on, the store stays sound.** -/
theorem kept_trail {σ : Type} [Store σ] [LawfulStore σ] {e : Env} {s : Session σ}
    (t : Trail site e J s) : Kept J s.view.store := by
  induction t with
  | start =>
    refine ⟨?_, by simp⟩
    show (LawfulStore.view (Store.empty : σ)).Sound
    rw [LawfulStore.view_empty]
    exact Memory.sound_empty
  | move before m ih => exact kept_effect ih (effect site ih.sound.closed m)

end SiteWalk.Batch

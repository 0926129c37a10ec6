import SiteWalk.Proofs.Batch.Runs
import SiteWalk.Proofs.Settings.Canonical

/-!
# Steps with other settings

The context of a run holds the digest of the settings that the run was started with, and
whatever is done with the store, this digest stays.  A step that carries other settings is
refused, whatever it says of itself, unless their texts collide.

    m.Recorded J → Effect site s x s' → s'.store.Recorded (J ++ [x])          (recorded_effect)
    c.digest = s.digest → (mismatch ↔ … t.settings ≠ s ∧ ¬ Collide …)             (mismatch_iff)
-/

namespace SiteWalk.Batch

open Crawl

/-! ## The digest of a run -/

/-- The context of a run holds the digest of the settings that some entry starts it with. -/
def Memory.Recorded (J : List Entry) (m : Memory) : Prop :=
  ∀ run c, m.context? run = some c → ∃ y ∈ J, ∃ r, y.Starts r run ∧
    c.digest = r.profile.settings.digest

variable {site : Web} {s s' : Session Memory} {x : Entry} {run : Int} {c : Context}
  {J : List Entry}

/-- A context that a move leaves behind is that of a new run, or has the digest of the one that
was there. -/
theorem digest_effect (sound : s.store.Sound) (eff : Effect site s x s')
    (context : s'.store.context? run = some c) :
    (∃ r, x.Starts r run ∧ c.digest = r.profile.settings.digest) ∨
      ∃ c', s.store.context? run = some c' ∧ c.digest = c'.digest := by
  -- A move replaces no context but that of the run that it is about.
  by_cases own : x.Concerns run
  case neg =>
    rw [context_effect eff own] at context
    exact .inr ⟨c, context, rfl⟩
  cases eff with
  | idle => exact .inr ⟨c, context, rfl⟩
  | @started settings seed r profile address =>
    obtain rfl : s.store.lastRun + 1 = run := own.started
    rw [Memory.context?_begin sound, if_pos rfl] at context
    cases context
    exact .inl ⟨r, ⟨settings, seed, rfl, profile, address, rfl⟩, rfl⟩
  | @dropped q rest c' o top context' =>
    obtain rfl : q.step.run = run := own.processed
    rw [Memory.context?_save (m := s.store.discard q.step.run) context', if_pos rfl] at context
    cases context
    exact .inr ⟨c', context', rfl⟩
  | @abandoned q rest c' why top context' =>
    obtain rfl : q.step.run = run := own.processed
    rw [Memory.context?_complete context', if_pos rfl] at context
    cases context
    exact .inr ⟨c', context', rfl⟩
  | @visited q rest c' r' o v top context' =>
    obtain rfl : q.step.run = run := own.processed
    rw [Memory.context?_complete context', if_pos rfl] at context
    cases context
    exact .inr ⟨c', context', rfl⟩
  | @collected run' c' spent context' =>
    obtain rfl : run' = run := own.collected
    rw [Memory.context?_remove context', if_pos rfl] at context
    cases context
  | @calledOff run' c' n context' =>
    obtain rfl : run' = run := own.calledOff
    rw [Memory.context?_discard, Memory.context?_save context', if_pos rfl] at context
    cases context
    exact .inr ⟨c', context', rfl⟩

theorem recorded_effect (sound : s.store.Sound) (h : s.store.Recorded J)
    (eff : Effect site s x s') : s'.store.Recorded (J ++ [x]) := by
  intro run c context
  rcases digest_effect sound eff context with ⟨r, starts, digest⟩ | ⟨c', context', digest⟩
  · exact ⟨x, List.mem_append_right J List.mem_cons_self, r, starts, digest⟩
  · obtain ⟨y, hy, r, starts, digest'⟩ := h run c' context'
    exact ⟨y, List.mem_append_left _ hy, r, starts, digest.trans digest'⟩

/-- **A run keeps the digest that it was started with.** -/
theorem recorded_trail {σ : Type} [Store σ] [LawfulStore σ] {e : Env} {s : Session σ}
    (t : Trail site e J s) : s.view.store.Recorded J := by
  induction t with
  | start =>
    intro run c context
    have none : (LawfulStore.view (Store.empty : σ)).context? run = some c := context
    rw [LawfulStore.view_empty] at none
    cases none
  | move before m ih =>
    have sound := (kept_trail before).sound
    exact recorded_effect sound ih (effect site sound.closed m)

/-! ## The check of a step -/

theorem mismatch_iff_digest {t : Step} :
    prepare t c = .error (.store (.mismatch t.run c.digest t.settings.digest)) ↔
      t.settings.digest ≠ c.digest ∨ t.digest ≠ c.digest := by
  unfold prepare
  dsimp only
  split
  · next other => simp [other]
  · next same =>
    refine iff_of_false ?_ same
    split
    · nofun
    · split <;> nofun

theorem mismatch_iff {t : Step} {s : Settings} (recorded : c.digest = s.digest) :
    prepare t c = .error (.store (.mismatch t.run c.digest t.settings.digest)) ↔
      t.digest ≠ c.digest ∨ t.settings ≠ s ∧ ¬ t.settings.Collide s := by
  rw [mismatch_iff_digest, recorded, ne_eq t.settings.digest, Settings.digest_eq_iff, not_or,
    or_comm]

/-- **The text behind the digest determines the settings.**  Settings that differ in any field
have different texts.  So if the digest of a run is that of some settings, a step that carries
others is refused, unless the two texts collide; and the digest of a run in a store is that of
the settings it was started with, whatever else was done with the store. -/
theorem settings_of_digest :
    (∀ s t : Settings, s.canonical = t.canonical ↔ s = t) ∧
    (∀ (t : Step) (c : Context) (s : Settings), c.digest = s.digest →
      (prepare t c = .error (.store (.mismatch t.run c.digest t.settings.digest)) ↔
        t.digest ≠ c.digest ∨ t.settings ≠ s ∧ ¬ t.settings.Collide s)) ∧
    ∀ (σ : Type) [Store σ] [LawfulStore σ] (site : Web) (e : Env) (calls : List Call) (run : Int)
      (c : Context),
      Store.load run (work site calls (⟨Store.empty, e⟩ : Session σ)).store = .ok c →
      ∃ y ∈ journal site calls (⟨Store.empty, e⟩ : Session σ), ∃ r, y.Starts r run ∧
        c.digest = r.profile.settings.digest := by
  refine ⟨fun s t => Settings.canonical_inj, fun t c s => mismatch_iff, ?_⟩
  intro σ _ _ site e calls run c load
  exact recorded_trail (trail_journal site e calls) run c (context_of_load load)

/-- A step of the run that is said to have its settings, but goes deeper. -/
def deeper : Step :=
  { loopbackRun.stepAt 1 loopbackRun.first with
    settings := { plainSettings with walk := { plainSettings.walk with depth := 7 } } }

theorem settings_of_digest_deeper :
    deeper.settings.canonical ≠ plainSettings.canonical ∧
      deeper.digest = (loopbackRun.context {} {}).digest ∧
      (¬ deeper.settings.Collide plainSettings →
        prepare deeper (loopbackRun.context {} {}) = .error (.store
          (.mismatch 1 (loopbackRun.context {} {}).digest deeper.settings.digest))) ∧
      Store.load 1 (work deadSite begun (⟨Store.empty, {}⟩ : Session Relational)).store =
        .ok (loopbackRun.context {} {}) ∧
      ∃ y ∈ journal deadSite begun (⟨Store.empty, {}⟩ : Session Relational), ∃ r, y.Starts r 1 ∧
        (loopbackRun.context {} {}).digest = r.profile.settings.digest := by
  obtain ⟨inj, refused, recorded⟩ := settings_of_digest
  have other : deeper.settings ≠ plainSettings := by decide
  have load : Store.load 1 (work deadSite begun (⟨Store.empty, {}⟩ : Session Relational)).store =
      .ok (loopbackRun.context {} {}) := rfl
  refine ⟨fun same => other ((inj _ _).1 same), rfl, ?_, load, recorded _ _ _ _ 1 _ load⟩
  intro apart
  exact (refused deeper (loopbackRun.context {} {}) plainSettings rfl).2 (.inr ⟨other, apart⟩)

end SiteWalk.Batch

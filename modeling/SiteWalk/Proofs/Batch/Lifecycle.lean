import SiteWalk.Proofs.Batch.Runs
import SiteWalk.Proofs.Crawl.Within

/-!
# The life of a run

A run is handed out under a number of its own.  From then on its context is there, and its
report only grows, until the report is collected; this may happen once, when no step of the
run is queued, and afterwards nothing is left of the run and its number is not used again.
None of this depends on what is done for other runs.

    Trail site e J s → y ∈ J → y.reply = .started (.ok (.deferred run)) →
      Life run J s.view.store                                                 (life_trail)
-/

namespace SiteWalk

namespace Crawl

/-! ## Reports that grow -/

/-- What one report has collected is the beginning of what the other has, and its marks are on
the other as well. -/
structure Report.Grows (a b : Report) : Prop extends a.Within b where
  cancelled : a.cancelled = true → b.cancelled = true
  incomplete : a.incomplete = true → b.incomplete = true

namespace Report.Grows

variable {a b c : Report}

theorem refl (a : Report) : a.Grows a := ⟨.refl a, id, id⟩

theorem trans (h : a.Grows b) (h' : b.Grows c) : a.Grows c :=
  ⟨h.toWithin.trans h'.toWithin, h'.cancelled ∘ h.cancelled, h'.incomplete ∘ h.incomplete⟩

theorem record (a : Report) (o : Outcome) : a.Grows (a.record o) :=
  ⟨.record a o, id, id⟩

/-- Marks are put on a report that keeps all else. -/
theorem mark (a : Report) {cancelled incomplete : Bool}
    (off : a.cancelled = true → cancelled = true)
    (lacking : a.incomplete = true → incomplete = true) :
    a.Grows { a with cancelled := cancelled, incomplete := incomplete } :=
  ⟨⟨List.prefix_rfl, List.prefix_rfl, Nat.le_refl _, Nat.le_refl _⟩, off, lacking⟩

end Report.Grows

end Crawl

namespace Batch

open Crawl

/-- The report of a run grows, and a run that is called off stays so. -/
structure Context.Grows (c d : Context) : Prop where
  report : c.report.Grows d.report
  off : c.cancelled = true → d.cancelled = true

theorem Context.Grows.refl (c : Context) : c.Grows c := ⟨.refl _, id⟩

theorem Context.Grows.trans {b c d : Context} (h : b.Grows c) (h' : c.Grows d) : b.Grows d :=
  ⟨h.report.trans h'.report, h'.off ∘ h.off⟩

/-! ## Moves -/

/-- The report of the run is handed out. -/
def Entry.handsOut (run : Int) (x : Entry) : Bool :=
  match x.move, x.reply with
  | .collect run', .collected (.ok (some _)) => run' == run
  | _, _ => false

theorem Entry.collected_of_handsOut {run : Int} {x : Entry} (h : x.handsOut run = true) :
    x.move = .collect run ∧ ∃ rep, x.reply = .collected (.ok (some rep)) := by
  unfold handsOut at h
  split at h
  · next run' rep move reply =>
    obtain rfl : run' = run := eq_of_beq h
    exact ⟨move, rep, reply⟩
  · cases h

/-- A run that is not there has no steps. -/
theorem Memory.Sound.stepsOf_gone {m : Memory} {run : Int} (h : m.Sound)
    (gone : m.context? run = none) : m.stepsOf run = [] := by
  unfold stepsOf
  rw [List.map_eq_nil_iff, List.filter_eq_nil_iff]
  intro q hq own
  obtain ⟨c, hc⟩ := hasRun_iff.1 (h.closed q hq)
  obtain rfl : q.step.run = run := of_decide_eq_true own
  rw [show m.runs.lookup q.step.run = none from gone] at hc
  cases hc

variable {site : Web} {s s' : Session Memory} {x : Entry} {run : Int} {c : Context}

/-- A report is handed out when no step of its run is queued, and then the run is gone. -/
theorem gone_of_handsOut (eff : Effect site s x s') (hand : x.handsOut run = true) :
    (∃ c, s.store.context? run = some c) ∧ s.store.stepsOf run = [] ∧
      s'.store.context? run = none := by
  obtain ⟨move, rep, reply⟩ := Entry.collected_of_handsOut hand
  cases eff with
  | idle started collected => exact absurd reply (collected rep)
  | started | dropped | abandoned | visited | calledOff => cases reply
  | collected spent context =>
    cases move
    refine ⟨⟨_, context⟩, spent, ?_⟩
    rw [Memory.context?_remove context, if_pos rfl]

/-- What is done to a run makes its report grow, unless it is handed out. -/
theorem grows_effect (eff : Effect site s x s') (old : run ≤ s.store.lastRun)
    (stays : x.handsOut run = false) (context : s.store.context? run = some c) :
    ∃ d, s'.store.context? run = some d ∧ c.Grows d := by
  by_cases own : x.Concerns run
  · cases eff with
    | idle => exact ⟨c, context, .refl c⟩
    | started =>
      have hr : s.store.lastRun + 1 = run := own.started
      omega
    | @dropped q rest c' o top context' =>
      obtain rfl : q.step.run = run := own.processed
      cases context.symm.trans context'
      rw [Memory.context?_save (m := s.store.discard q.step.run) context', if_pos rfl]
      exact ⟨_, rfl, .mark _ (fun _ => rfl) id, id⟩
    | @abandoned q rest c' why top context' =>
      obtain rfl : q.step.run = run := own.processed
      cases context.symm.trans context'
      rw [Memory.context?_complete context', if_pos rfl]
      exact ⟨_, rfl, .mark _ id (fun _ => rfl), id⟩
    | @visited q rest c' r o v top context' =>
      obtain rfl : q.step.run = run := own.processed
      cases context.symm.trans context'
      rw [Memory.context?_complete context', if_pos rfl]
      exact ⟨_, rfl, .record _ _, id⟩
    | @collected run' c' =>
      obtain rfl : run' = run := own.collected
      simp [Entry.handsOut] at stays
    | @calledOff run' c' n context' =>
      obtain rfl : run' = run := own.calledOff
      cases context.symm.trans context'
      rw [Memory.context?_discard, Memory.context?_save context', if_pos rfl]
      exact ⟨_, rfl, .mark _ (fun _ => rfl) id, fun _ => rfl⟩
  · rw [context_effect eff own]
    exact ⟨c, context, .refl c⟩

/-- A run that is gone does not come back. -/
theorem gone_effect (eff : Effect site s x s') (old : run ≤ s.store.lastRun)
    (gone : s.store.context? run = none) : s'.store.context? run = none := by
  by_cases own : x.Concerns run
  · cases eff with
    | idle => exact gone
    | started =>
      have hr : s.store.lastRun + 1 = run := own.started
      omega
    | dropped top context | abandoned top context | visited top context =>
      obtain rfl := own.processed
      rw [gone] at context
      cases context
    | collected spent context =>
      obtain rfl := own.collected
      rw [gone] at context
      cases context
    | calledOff context =>
      obtain rfl := own.calledOff
      rw [gone] at context
      cases context
  · rw [context_effect eff own]
    exact gone

/-- Only what puts a run into the store hands its number out. -/
theorem starts_of_effect (eff : Effect site s x s')
    (reply : x.reply = .started (.ok (.deferred run))) : ∃ r, x.Starts r run := by
  cases eff with
  | idle started => exact absurd reply (started run)
  | @started settings seed r profile address =>
    exact ⟨r, settings, seed, rfl, profile, address, reply⟩
  | dropped | abandoned | visited | collected | calledOff => cases reply

/-! ## Lives -/

variable {J : List Entry} {m : Memory}

/-- How far a run has come that was handed out. -/
inductive Life (run : Int) (J : List Entry) (m : Memory) : Prop
  /-- Its report has not been handed out. -/
  | kept {c : Context} (context : m.context? run = some c) (none : J.countP (·.handsOut run) = 0)
  /-- Its report was handed out. -/
  | gone (gone : m.context? run = none) (once : J.countP (·.handsOut run) = 1)

theorem countP_handsOut (J : List Entry) (x : Entry) :
    (J ++ [x]).countP (·.handsOut run) =
      J.countP (·.handsOut run) + if x.handsOut run then 1 else 0 := by
  rw [List.countP_append, List.countP_singleton]

/-- **Every move lets a run live on**, or ends its life by handing its report out. -/
theorem life_effect (old : run ≤ s.store.lastRun) (h : Life run J s.store)
    (eff : Effect site s x s') : Life run (J ++ [x]) s'.store := by
  cases hand : x.handsOut run with
  | true =>
    obtain ⟨⟨c, context⟩, -, gone⟩ := gone_of_handsOut eff hand
    cases h with
    | kept _ none => exact .gone gone (by rw [countP_handsOut, none, if_pos hand])
    | gone missing =>
      rw [missing] at context
      cases context
  | false =>
    have same : (J ++ [x]).countP (·.handsOut run) = J.countP (·.handsOut run) := by
      rw [countP_handsOut, hand]
      rfl
    cases h with
    | kept context none =>
      obtain ⟨d, context', -⟩ := grows_effect eff old hand context
      exact .kept context' (same.trans none)
    | gone gone once => exact .gone (gone_effect eff old gone) (same.trans once)

theorem life_started (kept : Kept J s.store) (eff : Effect site s x s')
    (reply : x.reply = .started (.ok (.deferred run))) : Life run (J ++ [x]) s'.store := by
  obtain ⟨r, hs⟩ := starts_of_effect eff reply
  obtain ⟨rfl, hv⟩ := started_of_effect eff hs
  have first : (J ++ [x]).countP (·.handsOut (s.store.lastRun + 1)) = 0 := by
    rw [List.countP_eq_zero]
    intro y hy hand
    obtain ⟨move, rep, collected⟩ := Entry.collected_of_handsOut hand
    rcases List.mem_append.1 hy with hy | hy
    · have := kept.names_le y hy _ (.inr (.inr ⟨move, rep, collected⟩))
      omega
    · rw [List.mem_singleton.1 hy, reply] at collected
      cases collected
  have context : s'.store.context? (s.store.lastRun + 1) = some (r.context {} {}) := by
    rw [hv, Memory.context?_begin kept.sound, if_pos rfl]
  exact .kept context first

variable {σ : Type} [Store σ] [LawfulStore σ] {e : Env}

theorem life_trail {s : Session σ} (t : Trail site e J s) {y : Entry} (hy : y ∈ J)
    (reply : y.reply = .started (.ok (.deferred run))) : Life run J s.view.store := by
  induction t with
  | start => cases hy
  | @move J s before m ih =>
    have kept := kept_trail before
    have eff : Effect site s.view (m.entry site s) (m.perform site s).2.view :=
      effect site kept.sound.closed m
    rcases List.mem_append.1 hy with hy | hy
    · exact life_effect (kept.names_le y hy run (.inl reply)) (ih hy) eff
    · rw [List.mem_singleton.1 hy] at reply
      exact life_started kept eff reply

/-- Later moves do not hand the number out again, and the report grows until it is handed out. -/
theorem grows_calls {s : Session σ} (t : Trail site e J s) (old : run ≤ s.view.store.lastRun)
    (calls : List Call) :
    (∀ y ∈ journal site calls s, y.reply ≠ .started (.ok (.deferred run))) ∧
      (∀ c, s.view.store.context? run = some c →
        (∀ y ∈ journal site calls s, y.handsOut run = false) →
        ∃ d, (work site calls s).view.store.context? run = some d ∧ c.Grows d) := by
  refine (work_induction (P := fun K s' => (Trail site e (J ++ K) s' ∧
    run ≤ s'.view.store.lastRun) ∧ (∀ y ∈ K, y.reply ≠ .started (.ok (.deferred run))) ∧
    ∀ c, s.view.store.context? run = some c → (∀ y ∈ K, y.handsOut run = false) →
      ∃ d, s'.view.store.context? run = some d ∧ c.Grows d) ?_ ?_ calls).2
  · refine ⟨⟨by rwa [List.append_nil], old⟩, List.forall_mem_nil _, ?_⟩
    intro c context _
    exact ⟨c, context, .refl c⟩
  · rintro K s' m ⟨⟨t', old'⟩, fresh, grows⟩
    have kept := kept_trail t'
    have eff : Effect site s'.view (m.entry site s') (m.perform site s').2.view :=
      effect site kept.sound.closed m
    refine ⟨⟨?_, Int.le_trans old' (lastRun_effect eff)⟩, ?_, ?_⟩
    · rw [← List.append_assoc]
      exact t'.move m
    · intro y hy reply
      rcases List.mem_append.1 hy with hy | hy
      · exact fresh y hy reply
      · rw [List.mem_singleton.1 hy] at reply
        obtain ⟨r, hs⟩ := starts_of_effect eff reply
        have := (started_of_effect eff hs).1
        omega
    · intro c context stays
      obtain ⟨d, context', h⟩ := grows c context fun y hy => stays y (List.mem_append_left _ hy)
      obtain ⟨d', context', h'⟩ := grows_effect eff old'
        (stays _ (List.mem_append_right _ List.mem_cons_self)) context'
      exact ⟨d', context', h.trans h'⟩

/-- **A run is kept until its report is collected, and then it is gone for good.**  Whatever is
done with a store after a run was handed out: its number is not handed out again.  As long as
its report has not been collected its context is there; collecting answers nothing and changes
nothing while a step of it is queued, and else hands the report out; and the report has grown
from whatever it was before.  It is handed out once; from then on no step of the run is queued,
and who collects the run or calls it off is told that there is no such run. -/
theorem kept_until_collected (σ : Type) [Store σ] [LawfulStore σ] (site : Web) (e : Env)
    (calls more : List Call) (run : Int)
    (handed : ∃ y ∈ journal site calls (⟨Store.empty, e⟩ : Session σ),
      y.reply = .started (.ok (.deferred run))) :
    let J := journal site calls (⟨Store.empty, e⟩ : Session σ)
    let s := work site calls (⟨Store.empty, e⟩ : Session σ)
    let K := journal site more s
    let missing : Failure := .store (.missingRun run)
    (∀ y ∈ K, y.reply ≠ .started (.ok (.deferred run))) ∧
    (J.countP (·.handsOut run) = 0 → ∃ c, Store.load run s.store = .ok c ∧
      (Store.pending run s.store > 0 → collect run s = (.ok none, s)) ∧
      (Store.pending run s.store = 0 → (collect run s).1 = .ok (some c.report)) ∧
      (K.countP (·.handsOut run) = 0 →
        ∃ d, Store.load run (work site more s).store = .ok d ∧ c.Grows d)) ∧
    (J.countP (·.handsOut run) ≠ 0 → J.countP (·.handsOut run) = 1 ∧
      Store.load run s.store = .error (.missingRun run) ∧ Store.pending run s.store = 0 ∧
      collect run s = (.error missing, s) ∧ cancelRun run s = (.error missing, s)) := by
  intro J s K missing
  obtain ⟨y, hy, reply⟩ := handed
  have t : Trail site e J s := trail_journal site e calls
  have kept := kept_trail t
  obtain ⟨fresh, grows⟩ := grows_calls t (kept.names_le y hy run (.inl reply)) more
  have pending : Store.pending run s.store = (s.view.store.stepsOf run).length :=
    pending_eq run s.store
  refine ⟨fresh, ?_, ?_⟩
  · intro none
    cases life_trail t hy reply with
    | gone _ once => omega
    | @kept c context =>
      refine ⟨c, load_some context, ?_, ?_, ?_⟩
      · intro left
        rw [pending] at left
        exact collect_left (List.length_pos_iff.1 left)
      · intro spent
        rw [pending, List.length_eq_zero_iff] at spent
        obtain ⟨s', he, -⟩ := collect_view spent context
        rw [he]
      · intro stays
        have stays : ∀ y ∈ K, y.handsOut run = false := by simpa using stays
        obtain ⟨d, context', h⟩ := grows c context stays
        exact ⟨d, load_some context', h⟩
  · intro some
    cases life_trail t hy reply with
    | kept _ none => exact absurd none some
    | gone gone once =>
      have spent := kept.sound.stepsOf_gone gone
      refine ⟨once, load_none gone, ?_, collect_none spent gone, cancelRun_none gone⟩
      rw [pending, spent]
      rfl

/-- A run is called off and its report collected. -/
def calledOffAndCollected : List Call := begun ++ [.move (.cancel 1), .move (.collect 1)]

theorem kept_until_collected_loopback :
    let s : Session Memory := ⟨Store.empty, {}⟩
    let off := work deadSite calledOffAndCollected s
    (∃ c d, Store.load 1 (work deadSite begun s).store = .ok c ∧
        Store.load 1 (work deadSite [.move (.cancel 1)] (work deadSite begun s)).store = .ok d ∧
        c.Grows d) ∧
      collect 1 off = (.error (.store (.missingRun 1)), off) ∧
      cancelRun 1 off = (.error (.store (.missingRun 1)), off) := by
  intro s off
  obtain ⟨-, waits, -⟩ := kept_until_collected Memory deadSite {} begun [.move (.cancel 1)] 1
    ⟨_, List.mem_cons_self, rfl⟩
  obtain ⟨c, context, -, -, grows⟩ := waits rfl
  obtain ⟨d, context', h⟩ := grows rfl
  obtain ⟨-, -, gone⟩ := kept_until_collected Memory deadSite {} calledOffAndCollected [] 1
    ⟨_, List.mem_cons_self, rfl⟩
  obtain ⟨-, -, -, none, missing⟩ := gone (by decide)
  exact ⟨⟨c, d, context, context', h⟩, none, missing⟩

end Batch

end SiteWalk

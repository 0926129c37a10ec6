import SiteWalk.Proofs.Batch.Follow
import SiteWalk.Proofs.Batch.Without

/-!
# Runs that are called off

A run that was called off is never worked on again, whatever is done with the store and
even if more of its steps are put on the queue by hand: they are dropped as soon as one of
them is next.  Its report stays as it was, and all other runs go on as if it were not there:
what is done to them is done to the store without the run just the same (`Aside`).

    x ∈ proceedings site acts s → x.on run → x.Skips
    (collect run (proceed site acts s)).1 = .ok (some rep) → rep.Within (r.crawl site {}).report
-/

namespace SiteWalk.Batch

open Crawl

/-! ## Acts -/

/-- What is done to a store: what coordinators are asked for, and steps that are put on the
queue by hand. -/
inductive Act where
  | call (c : Call)
  | put (t : Step)

section

variable {σ : Type} [Store σ]

namespace Act

def perform (site : Web) (a : Act) (s : Session σ) : Session σ :=
  match a with
  | .call c => c.perform site s
  | .put t => (Session.change (Store.enqueue t) s).2

def entries (site : Web) (a : Act) (s : Session σ) : List Entry :=
  match a with
  | .call c => Batch.entries site (c.moves site s) s
  | .put _ => []

end Act

/-- The session after all acts. -/
def proceed (site : Web) : List Act → Session σ → Session σ
  | [], s => s
  | a :: as, s => proceed site as (a.perform site s)

/-- The entries of all acts, oldest first. -/
def proceedings (site : Web) : List Act → Session σ → List Entry
  | [], _ => []
  | a :: as, s => a.entries site s ++ proceedings site as (a.perform site s)

variable {site : Web}

/-- What every move and every step put on the queue preserves is preserved by all acts. -/
theorem proceed_induction {P : List Entry → Session σ → Prop} {run : Int}
    (move : ∀ K s, ∀ m : Move, P K s → P (K ++ [m.entry site s]) (m.perform site s).2)
    (put : ∀ K s, ∀ t : Step, t.run = run → P K s → P K ((Act.put t).perform site s))
    {acts : List Act} (named : ∀ t, .put t ∈ acts → t.run = run) {K : List Entry} {s : Session σ}
    (h : P K s) : P (K ++ proceedings site acts s) (proceed site acts s) := by
  have moves : ∀ (ms : List Move) (K : List Entry) (s : Session σ), P K s →
      P (K ++ entries site ms s) (performAll site ms s) := by
    intro ms
    induction ms with
    | nil =>
      intro K s h
      unfold entries performAll
      rwa [List.append_nil]
    | cons m ms ih =>
      intro K s h
      have h := ih _ _ (move K s m h)
      rwa [List.append_assoc] at h
  induction acts generalizing K s with
  | nil =>
    unfold proceedings proceed
    rwa [List.append_nil]
  | cons a as ih =>
    have named' : ∀ t, .put t ∈ as → t.run = run := fun t ht =>
      named t (List.mem_cons_of_mem _ ht)
    cases a with
    | call c =>
      have h := moves (c.moves site s) K s h
      rw [← Call.perform_eq] at h
      have h := ih named' h
      rwa [List.append_assoc] at h
    | put t => exact ih named' (put K s t (named t List.mem_cons_self) h)

end

/-- A step that is put on the queue is on top of it, or it was refused. -/
class LawfulQueue (σ : Type) [Store σ] [LawfulStore σ] : Prop where
  view_put (t : Step) (s : σ) :
    LawfulStore.view (Store.enqueue t s).2 = (LawfulStore.view s).push t ∨
      LawfulStore.view (Store.enqueue t s).2 = LawfulStore.view s

instance : LawfulQueue Memory where
  view_put _ _ := .inl rfl

instance : LawfulQueue Relational where
  view_put t db := by
    by_cases h : hasRun t.run db.runs = true
    · exact .inl (congrArg Prod.snd (Relational.view_insert h))
    · right
      show Relational.view (Relational.insert t db).2 = _
      unfold Relational.insert
      rw [if_neg h]
      rfl

variable {σ : Type} [Store σ] [LawfulStore σ] {site : Web} {run : Int} {x : Entry}

theorem put_view [LawfulQueue σ] (site : Web) (t : Step) (s : Session σ) :
    ((Act.put t).perform site s).view = ⟨s.view.store.push t, s.env⟩ ∨
      ((Act.put t).perform site s).view = s.view := by
  have hv : ((Act.put t).perform site s).view =
      ⟨LawfulStore.view (Store.enqueue t s.store).2, s.env⟩ := by
    show (Session.change (Store.enqueue t) s).2.view = _
    unfold Session.change Session.view
    split
    · next heq => rw [heq]
    · next heq => rw [heq]
  rw [hv]
  rcases LawfulQueue.view_put t s.store with h | h
  · exact .inl (by rw [h]; rfl)
  · exact .inr (by rw [h]; rfl)

/-! ## What a move does when a run is called off -/

/-- What is reported of a step that is dropped. -/
def skipped (t : Step) : StepReport := { run := t.run, url := t.node.url, stage := .skipped }

/-- The entry reports its step as skipped, and nothing was asked for. -/
def Entry.Skips (x : Entry) : Prop :=
  x.asked = [] ∧ ∃ t, x.step = some t ∧ x.reply = .processed (.ok (some (skipped t)))

/-- All steps of a run that is called off, or is not there any more, are dropped with the
one that is next. -/
theorem processStep_off (site : Web) {s : Session σ} {q : Queued} {rest : List Queued}
    (on : ¬ s.env.cancelled = true) (top : s.view.store.steps = q :: rest)
    (off : ∀ c, s.view.store.context? q.step.run = some c → c.cancel = c) :
    ∃ s', processStep site s = (.ok (some (skipped q.step)), s') ∧ s'.env = s.env ∧
      s'.view.store.stepsOf q.step.run = [] ∧
      s'.view.store.without q.step.run = s.view.store.without q.step.run ∧
      ∀ c, s'.view.store.context? q.step.run = some c →
        s.view.store.context? q.step.run = some c := by
  cases hctx : s.view.store.context? q.step.run with
  | none =>
    refine ⟨{ s with store := Store.discard q.step.run s.store }, ?_, rfl, ?_, ?_, ?_⟩
    · unfold processStep
      rw [claim_orphan on top hctx]
      rfl
    · rw [Session.view_discard, Memory.stepsOf_discard, if_pos rfl]
    · rw [Session.view_discard, Memory.without_discard_self]
    · rw [Session.view_discard, Memory.context?_discard, hctx]
      exact fun _ h => h
  | some c =>
    have hoff := off c hctx
    have hc : c.cancelled = true := by rw [← hoff]; rfl
    obtain ⟨s', he, hv⟩ := settleDropped_view (c := c) hctx
    refine ⟨s', ?_, ?_, ?_, ?_, ?_⟩
    · unfold processStep
      rw [claim_top on top hctx, if_pos hc]
      exact he
    · show s'.view.env = s.env
      rw [hv]
    · rw [hv, Memory.stepsOf_save, Memory.stepsOf_discard, if_pos rfl]
    · rw [hv, Memory.without_save_self, Memory.without_discard_self]
    · intro c' h
      rw [hv, Memory.context?_save (m := s.view.store.discard q.step.run) hctx, if_pos rfl] at h
      rwa [show ({ c.report with cancelled := true } : Report) = c.report from
        congrArg Context.report hoff] at h

/-- What a move does while a run is called off: it does not depend on the run, or it is to be
seen of no other, and the context of the run does not change as long as it is there. -/
structure Beside (site : Web) (run : Int) (s : Session Memory) (x : Entry)
    (s' : Session Memory) : Prop where
  apart : Effect site (s.without run) x (s'.without run) ∧ x.on run = false ∨
    s'.store.without run = s.store.without run ∧ (∀ run', x.Names run' → run' = run) ∧
      (x.on run = true → x.Skips)
  context : ∀ c, s'.store.context? run = some c → s.store.context? run = some c

theorem beside_effect {s s' : Session Memory} (eff : Effect site s x s')
    (old : run ≤ s.store.lastRun) (off : ∀ c, s.store.context? run = some c → c.cancel = c)
    (away : x.on run = false) : Beside site run s x s' := by
  by_cases own : x.Concerns run
  · cases eff with
    | idle started collected => exact ⟨.inl ⟨.idle started collected, away⟩, fun _ h => h⟩
    | started =>
      have hr : s.store.lastRun + 1 = run := own.started
      omega
    | dropped | abandoned | visited =>
      exact absurd own (by simp [Entry.Concerns, Entry.Names, Entry.Touches, away])
    | @collected run' c spent context =>
      obtain rfl : run' = run := own.collected
      refine ⟨.inr ⟨Memory.without_remove_self, ?_, ?_⟩, ?_⟩
      · intro run'' h
        exact (Entry.Concerns.collected (.inl h)).symm
      · intro h
        cases h
      · intro c' h
        rw [Memory.context?_remove context, if_pos rfl] at h
        cases h
    | @calledOff run' c n context =>
      obtain rfl : run' = run := own.calledOff
      refine ⟨.inr ⟨?_, ?_, ?_⟩, ?_⟩
      · rw [Memory.without_discard_self, Memory.without_save_self]
      · intro run'' h
        simp [Entry.Names, Entry.Touches, Entry.on] at h
      · intro h
        cases h
      · intro c' h
        rw [Memory.context?_discard, Memory.context?_save context, if_pos rfl, off c context] at h
        rwa [context]
  · refine ⟨.inl ⟨effect_without eff own, away⟩, ?_⟩
    rw [context_effect eff own]
    exact fun _ h => h

/-- **Every move leaves a run alone that is called off**, but for dropping its steps. -/
theorem beside_move (site : Web) (m : Move) (s : Session σ)
    (closed : (s.view.store.without run).Closed) (old : run ≤ s.view.store.lastRun)
    (off : ∀ c, s.view.store.context? run = some c → c.cancel = c) :
    Beside site run s.view (m.entry site s) (m.perform site s).2.view := by
  cases m with
  | start settings seed flavor mode => exact beside_effect (effect_start ..) old off rfl
  | collect run' => exact beside_effect (effect_collect run') old off rfl
  | cancel run' => exact beside_effect (effect_cancel run') old off rfl
  | handOver cancelled cancelAt =>
    exact beside_effect (.idle (by simp [Move.perform]) (by simp [Move.perform])) old off rfl
  | process =>
    by_cases hc : s.env.cancelled = true ∨ s.view.store.steps = []
    · refine beside_effect (effect_unclaimed hc) old off ?_
      show ((claim s).step?.any fun t => t.run == run) = false
      rw [claim_idle hc]
      rfl
    · rw [not_or] at hc
      obtain ⟨on, hne⟩ := hc
      obtain ⟨q, rest, top⟩ := List.exists_cons_of_ne_nil hne
      have step : (claim s).step? = some q.step := claim_step on top
      -- The run may be gone and leave the step behind, which is no effect on a closed store.
      by_cases hr : q.step.run = run
      · subst hr
        obtain ⟨s', he, henv, -, hwithout, hctx⟩ := processStep_off site on top off
        have hx : Move.process.entry site s =
            ⟨.process, some q.step, .processed (.ok (some (skipped q.step))), []⟩ := by
          simp [Move.entry, Move.perform, Move.step?, he, step, henv]
        have hp : (Move.process.perform site s).2 = s' := by simp [Move.perform, he]
        rw [hx, hp]
        refine ⟨.inr ⟨hwithout, ?_, fun _ => ⟨rfl, q.step, rfl, rfl⟩⟩, hctx⟩
        intro run' h
        exact (Entry.Concerns.processed (.inl h)).symm
      · refine beside_effect (effect_process ?_) old off ?_
        · intro q' rest' top'
          rw [top] at top'
          cases top'
          rw [← hasRun_omitted _ hr]
          refine closed q ?_
          rw [Memory.steps_without top hr]
          exact List.mem_cons_self
        · show ((claim s).step?.any fun t => t.run == run) = false
          rw [step]
          simpa using hr

/-! ## What is left when a run is called off -/

/-- A run is called off with the context `c`, and since then the entries `K` have been made. -/
structure Aside (site : Web) (run : Int) (c : Context) (J K : List Entry) (m : Memory) : Prop where
  kept : Kept (J ++ K) (m.without run)
  old : run ≤ m.lastRun
  context : ∀ c', m.context? run = some c' → c' = c
  skips : ∀ x ∈ K, x.on run = true → x.Skips
  others : Following site (· ≠ run) (J ++ K) (m.without run)

variable {c : Context} {J K : List Entry} {m m' : Memory} {p : Int → Prop}

/-- An entry on old runs only changes nothing. -/
theorem Kept.noted (h : Kept J m) (old : ∀ run', x.Names run' → run' ≤ m.lastRun) :
    Kept (J ++ [x]) m := by
  refine ⟨h.sound, ?_⟩
  intro y hy run' hn
  rcases List.mem_append.1 hy with hy | hy
  · exact h.names_le y hy run' hn
  · rw [List.mem_singleton.1 hy] at hn
    exact old run' hn

/-- An entry on runs that are not looked at changes nothing. -/
theorem Following.noted (h : Following site p J m) (other : ∀ run', x.Names run' → ¬ p run') :
    Following site p (J ++ [x]) m := by
  intro r run' hp y hy hs
  rcases List.mem_append.1 hy with hy | hy
  · refine (h r run' hp y hy hs).frame ?_ rfl rfl
    cases on : x.on run' with
    | false => rfl
    | true => exact absurd hp (other run' (.inr (.inl on)))
  · rw [List.mem_singleton.1 hy] at hs
    obtain ⟨_, _, -, -, -, hr⟩ := hs
    exact absurd hp (other run' (.inl hr))

theorem skips_append (h : ∀ y ∈ K, y.on run = true → y.Skips) (hx : x.on run = true → x.Skips) :
    ∀ y ∈ K ++ [x], y.on run = true → y.Skips := by
  intro y hy on
  rcases List.mem_append.1 hy with hy | hy
  · exact h y hy on
  · rw [List.mem_singleton.1 hy] at on ⊢
    exact hx on

theorem aside_move (off : c.cancel = c) {s : Session σ} (h : Aside site run c J K s.view.store)
    (m : Move) : Aside site run c J (K ++ [m.entry site s]) (m.perform site s).2.view.store := by
  have hoff : ∀ c', s.view.store.context? run = some c' → c'.cancel = c' := by
    intro c' hc
    rw [h.context c' hc]
    exact off
  obtain ⟨apart, hctx⟩ := beside_move site m s h.kept.sound.closed h.old hoff
  have context := fun c' hc => h.context c' (hctx c' hc)
  -- The move shows in the store without the run, or it is about the run alone.
  rcases apart with ⟨eff, away⟩ | ⟨same, alone, skips⟩
  · have hle := lastRun_effect eff
    refine ⟨?_, Int.le_trans h.old hle, context, ?_, ?_⟩
    · rw [← List.append_assoc]
      exact kept_effect h.kept eff
    · exact skips_append h.skips fun on => by rw [away] at on; cases on
    · rw [← List.append_assoc]
      exact following_effect h.kept h.others eff
  · refine ⟨?_, ?_, context, skips_append h.skips skips, ?_⟩
    · rw [same, ← List.append_assoc]
      exact h.kept.noted fun run' hn => by rw [alone run' hn]; exact h.old
    · show run ≤ ((m.perform site s).2.view.store.without run).lastRun
      rw [same]
      exact h.old
    · rw [same, ← List.append_assoc]
      exact h.others.noted fun run' hn hp => hp (alone run' hn)

/-- A step that is put on the queue for a run that is called off changes nothing for others. -/
theorem aside_push {t : Step} (h : Aside site run c J K m) (ht : t.run = run) :
    Aside site run c J K (m.push t) := by
  have hw := Memory.without_push_self (m := m) ht
  refine ⟨?_, h.old, h.context, h.skips, ?_⟩
  · rw [hw]
    refine ⟨⟨h.kept.sound.closed, h.kept.sound.ordered, ?_, h.kept.sound.runs_le⟩, h.kept.names_le⟩
    intro q hq
    have hle : q.id ≤ m.lastStep := h.kept.sound.steps_le q hq
    show q.id ≤ m.lastStep + 1
    omega
  · rw [hw]
    intro r run' hp y hy hs
    exact (h.others r run' hp y hy hs).congr rfl rfl

theorem aside_put [LawfulQueue σ] {s : Session σ} {t : Step}
    (h : Aside site run c J K s.view.store) (ht : t.run = run) :
    Aside site run c J K ((Act.put t).perform site s).view.store := by
  rcases put_view site t s with hv | hv
  · rw [hv]
    exact aside_push h ht
  · rw [hv]
    exact h

/-- **A run that is called off stays aside, whatever is done.** -/
theorem aside_proceed [LawfulQueue σ] (off : c.cancel = c) {s : Session σ} {acts : List Act}
    (named : ∀ t, .put t ∈ acts → t.run = run) (h : Aside site run c J [] s.view.store) :
    Aside site run c J (proceedings site acts s) (proceed site acts s).view.store := by
  have hp : Aside site run c J ([] ++ proceedings site acts s) (proceed site acts s).view.store :=
    proceed_induction (P := fun K s => Aside site run c J K s.view.store)
      (fun K s m h => aside_move off h m) (fun K s t ht h => aside_put h ht) named h
  exact hp

theorem Kept.without (h : Kept J m) (run : Int) : Kept J (m.without run) :=
  ⟨h.sound.without run, h.names_le⟩

variable {e : Env}

/-- A run is aside once it is called off. -/
theorem aside_cancel {s : Session σ} (t : Trail site e J s)
    (context : s.view.store.context? run = some c) :
    Aside site run c.cancel (J ++ [(Move.cancel run).entry site s]) []
      ((Move.cancel run).perform site s).2.view.store := by
  have t' := t.move (.cancel run)
  have kept := kept_trail t'
  have hctx : ((Move.cancel run).perform site s).2.view.store.context? run = some c.cancel :=
    (slice_cancelRun context).1
  refine ⟨?_, kept.sound.runs_le hctx, ?_, ?_, ?_⟩
  · rw [List.append_nil]
    exact kept.without run
  · intro c' hc
    exact Option.some.inj (hc.symm.trans hctx)
  · intro x hx
    cases hx
  · rw [List.append_nil]
    intro r run' hp y hy hs
    exact (following_trail t' (fun _ => True) r run' trivial y hy hs).congr
      (Memory.context?_without hp) (Memory.stepsOf_without hp)

/-! ## Runs that are called off -/

/-- The steps of a run that is called off are dropped together. -/
theorem Aside.processStep {s : Session σ} {q : Queued} (h : Aside site run c J K s.view.store)
    (off : c.cancel = c) (top : Store.peek? s.store = some q) (own : q.step.run = run)
    (on : s.env.cancelled = false) :
    ∃ s', processStep site s = (.ok (some (skipped q.step)), s') ∧ s'.env = s.env ∧
      Store.pending run s'.store = 0 := by
  rw [peek?_eq] at top
  obtain ⟨rest, top⟩ := List.head?_eq_some_iff.1 top
  subst own
  obtain ⟨s', he, henv, spent, -, -⟩ := processStep_off site (by simp [on]) top
    fun c' hc => by rw [h.context c' hc]; exact off
  refine ⟨s', he, henv, ?_⟩
  rw [pending_eq, List.length_eq_zero_iff]
  exact spent

/-- What a run comes to does not depend on one that is called off. -/
theorem Aside.follows {s : Session σ} {r : Run} {run' : Int} {y : Entry} {rep : Report}
    (h : Aside site run c J K s.view.store) (other : run' ≠ run) (hy : y ∈ J ++ K)
    (hs : y.Starts r run') (hrep : (collect run' s).1 = .ok (some rep)) :
    ∃ c', Follows r site run' (J ++ K) (s.view.store.without run) ∧
      (s.view.store.without run).context? run' = some c' ∧ c'.report = rep ∧
      (s.view.store.without run).stepsOf run' = [] := by
  obtain ⟨c', hc, hr, spent⟩ := collect_some hrep
  exact ⟨c', h.others r run' other y hy hs, (Memory.context?_without other).trans hc, hr,
    (Memory.stepsOf_without other).trans spent⟩

/-- **A run that is called off stays so.**  Whatever is done with the store afterwards, and
even if more steps of the run are put on the queue by hand: nothing is asked for on behalf of
the run, its steps are dropped together when one of them is next, and the report that it has
is the beginning of the one of its crawl, marked as called off.  What other runs come to does
not depend on it: unless they are called off themselves their reports are those of their
crawls, and else those of the same run in any other store, after as many of its visits.  The
addresses of the seeds have to read back, as any does that is spelt in ASCII
(`Link.parse_text_of_ascii`). -/
theorem stays_off [LawfulQueue σ] (site : Web) (e : Env) (calls : List Call) (r : Run) (run : Int)
    (n : Nat) (acts : List Act)
    (started : ∃ y ∈ journal site calls (⟨Store.empty, e⟩ : Session σ), y.Starts r run)
    (off : (cancelRun run (work site calls (⟨Store.empty, e⟩ : Session σ))).1 = .ok n)
    (named : ∀ t, .put t ∈ acts → t.run = run) :
    let J := journal site (calls ++ [.move (.cancel run)]) (⟨Store.empty, e⟩ : Session σ)
    let s₀ := work site (calls ++ [.move (.cancel run)]) (⟨Store.empty, e⟩ : Session σ)
    let K := proceedings site acts s₀
    let s := proceed site acts s₀
    (∀ x ∈ K, x.on run = true → x.Skips) ∧
    (∀ q, Store.peek? s.store = some q → q.step.run = run → s.env.cancelled = false →
      ∃ s', processStep site s = (.ok (some (skipped q.step)), s') ∧ s'.env = s.env ∧
        Store.pending run s'.store = 0) ∧
    (∃ rep, (collect run s₀).1 = .ok (some rep)) ∧
    (∀ rep, (collect run s).1 = .ok (some rep) → rep.cancelled = true ∧
      (Url.parse r.seed.toText.toList = .ok r.seed → rep.Within (r.crawl site {}).report)) ∧
    ∀ r' run' rep, run' ≠ run → (∃ y ∈ J ++ K, y.Starts r' run') →
      Url.parse r'.seed.toText.toList = .ok r'.seed → (collect run' s).1 = .ok (some rep) →
      ((∀ x ∈ J ++ K, x.move ≠ .cancel run') → rep = (r'.crawl site {}).report) ∧
      ∀ e₂ calls₂ run₂ rep₂,
        let J₂ := journal site calls₂ (⟨Store.empty, e₂⟩ : Session σ)
        (∃ y ∈ J₂, y.Starts r' run₂) →
        (collect run₂ (work site calls₂ (⟨Store.empty, e₂⟩ : Session σ))).1 = .ok (some rep₂) →
        (∀ x ∈ J ++ K, x.move ≠ .cancel run') ∧ (∀ x ∈ J₂, x.move ≠ .cancel run₂) ∨
          (marksOf run' (J ++ K)).length = (marksOf run₂ J₂).length ∧
            rep.cancelled = rep₂.cancelled →
        rep = rep₂ := by
  intro J s₀ K s
  obtain ⟨c, context⟩ := context_of_cancelRun off
  have t : Trail site e (journal site calls (⟨Store.empty, e⟩ : Session σ)) _ :=
    trail_journal site e calls
  have hJ : J = journal site calls ⟨Store.empty, e⟩ ++
      [(Move.cancel run).entry site (work site calls (⟨Store.empty, e⟩ : Session σ))] :=
    journal_append site calls _ _
  have hs₀ : s₀ = ((Move.cancel run).perform site (work site calls ⟨Store.empty, e⟩)).2 :=
    work_append site calls _ _
  have aside : Aside site run c.cancel J K s.view.store := by
    refine aside_proceed rfl named ?_
    rw [hJ, hs₀]
    exact aside_cancel t context
  obtain ⟨hctx, spent⟩ := slice_cancelRun context
  refine ⟨aside.skips, fun q => aside.processStep rfl, ?_, ?_, ?_⟩
  · obtain ⟨s', he, -⟩ := collect_view spent hctx
    rw [hs₀]
    exact ⟨_, congrArg Prod.fst he⟩
  · intro rep hrep
    obtain ⟨c', hc', rfl, -⟩ := collect_some hrep
    rw [aside.context c' hc']
    refine ⟨rfl, ?_⟩
    intro readBack
    obtain ⟨y, hy, hs⟩ := started
    have follows := following_trail (t.move (.cancel run)) (fun _ => True) r run trivial y
      (List.mem_append_left _ hy) hs
    exact follows.within readBack hctx
  · intro r' run' rep other hy readBack hrep
    obtain ⟨y, hy, hs⟩ := hy
    obtain ⟨c', follows, hc', rfl, spent'⟩ := aside.follows other hy hs hrep
    refine ⟨follows.report_crawl readBack hc' spent', ?_⟩
    intro e₂ calls₂ run₂ rep₂ J₂ hy₂ hrep₂ same
    obtain ⟨y₂, hy₂, hs₂⟩ := hy₂
    obtain ⟨c₂, hc₂, rfl, spent₂⟩ := collect_some hrep₂
    have follows₂ := following_trail (trail_journal site e₂ calls₂) (fun _ => True) r' run₂ trivial
      y₂ hy₂ hs₂
    rcases same with ⟨kept, kept₂⟩ | ⟨visits, marked⟩
    · rw [follows.report_crawl readBack hc' spent' kept,
        follows₂.report_crawl readBack hc₂ spent₂ kept₂]
    · exact follows.report_unique follows₂ readBack hc' hc₂ visits marked

/-- `wide` has its first page when `lost` joins it. -/
def halfway : List Call := [.move startWide, .move .process, .move startLost]

/-- A step of `wide` that someone puts back. -/
def putBack : Step := wide.stepAt 1 ⟨"http://[::1]/a", 1⟩

/-- The two steps that are next are processed. -/
def twice : List Act := [.call (.move .process), .call (.move .process)]

theorem does_halfway : ∃ J, ∃ s : Session Memory,
    Does frayed halfway ⟨Store.empty, {}⟩ (wideEntry :: J) s ∧
    (∃ y ∈ J, y.Starts lost 2) ∧ (cancelRun 1 s).1 = .ok 2 ∧
    let s₁ := proceed frayed [.put putBack] (cancelRun 1 s).2
    (∃ q, Store.peek? s₁.store = some q ∧ q.step = putBack) ∧ s₁.env.cancelled = false ∧
    (collect 1 (proceed frayed twice s₁)).1 =
      .ok (some { pagesFetched := 1, cancelled := true }) ∧
    (collect 2 (proceed frayed twice s₁)).1 = .ok (some { fetchFailures := 1 }) := by
  refine ⟨_, _, .cons perform_startWide
    (.cons (perform_visit frayed rfl rfl rfl rfl (wide_prepared 1 _ _ _) (visit_wide _))
    (.cons (perform_start (r := lost) frayed rfl rfl _ _)
    (.nil _))), ?_, rfl, ?_⟩
  · exact ⟨_, List.mem_cons_of_mem _ List.mem_cons_self, lost.profile.settings, _,
      rfl, rfl, rfl, rfl⟩
  · intro s₁
    have rest : ∃ K t, Does frayed [.move .process, .move .process] s₁ K t ∧
        (collect 1 t).1 = .ok (some { pagesFetched := 1, cancelled := true }) ∧
        (collect 2 t).1 = .ok (some { fetchFailures := 1 }) :=
      ⟨_, _, .cons ⟨rfl, rfl⟩
        (.cons (perform_visit frayed rfl rfl rfl rfl (lost_prepared 2 _ _ _) (visit_lost _))
        (.nil _)), rfl, rfl⟩
    obtain ⟨K, t, does, handed⟩ := rest
    have last : proceed frayed twice s₁ = t := does.work
    rw [last]
    exact ⟨⟨_, rfl, rfl⟩, rfl, handed⟩

/-- `wide` is called off between its pages, and `lost` goes on. -/
theorem stays_off_loopback :
    let s₀ := work frayed (halfway ++ [.move (.cancel 1)]) (⟨Store.empty, {}⟩ : Session Memory)
    let s₁ := proceed frayed [.put putBack] s₀
    let s := proceed frayed (.put putBack :: twice) s₀
    (∃ s', processStep frayed s₁ = (.ok (some (skipped putBack)), s') ∧ s'.env = s₁.env ∧
      Store.pending 1 s'.store = 0) ∧
    (∀ x ∈ proceedings frayed (.put putBack :: twice) s₀, x.on 1 = true → x.Skips) ∧
    (∃ rep, (collect 1 s).1 = .ok (some rep) ∧ rep.pagesFetched = 1 ∧ rep.cancelled = true ∧
      rep.Within (wide.crawl frayed {}).report) ∧
    (collect 2 s).1 = .ok (some (lost.crawl frayed {}).report) := by
  obtain ⟨J, s', does, joined, off, ⟨q, top, step⟩, on, first, second⟩ := does_halfway
  have off : (cancelRun 1 (work frayed halfway (⟨Store.empty, {}⟩ : Session Memory))).1 =
      .ok 2 := by
    rw [does.work]
    exact off
  have started : ∃ y ∈ journal frayed halfway (⟨Store.empty, {}⟩ : Session Memory),
      y.Starts wide 1 := by
    rw [does.journal]
    exact ⟨_, List.mem_cons_self, wideEntry_starts⟩
  have here : work frayed (halfway ++ [.move (.cancel 1)]) (⟨Store.empty, {}⟩ : Session Memory) =
      (cancelRun 1 s').2 := by
    rw [work_append, does.work]
    rfl
  obtain ⟨-, dropped, -⟩ := stays_off frayed {} halfway wide 1 2 [.put putBack] started off
    (by simp [putBack, Run.stepAt])
  obtain ⟨skips, -, -, handed, others⟩ := stays_off frayed {} halfway wide 1 2
    (.put putBack :: twice) started off (by simp [putBack, twice, Run.stepAt])
  rw [here] at dropped skips handed others ⊢
  -- What the store looks like in full does not matter from here on.
  generalize (cancelRun 1 s').2 = s₀ at *
  intro s₀' s₁ s
  have after : s = proceed frayed twice s₁ := rfl
  refine ⟨?_, skips, ?_, ?_⟩
  · rw [← step]
    exact dropped q top (congrArg Step.run step) on
  · rw [after]
    obtain ⟨marked, within⟩ := handed _ first
    exact ⟨_, first, rfl, marked, within loopback_readBack⟩
  · have joined : ∃ y ∈ journal frayed (halfway ++ [.move (.cancel 1)])
        (⟨Store.empty, {}⟩ : Session Memory) ++ proceedings frayed (.put putBack :: twice) s₀,
        y.Starts lost 2 := by
      obtain ⟨y, hy, hs⟩ := joined
      refine ⟨y, List.mem_append_left _ ?_, hs⟩
      rw [journal_append, does.journal]
      exact List.mem_append_left _ (List.mem_cons_of_mem _ hy)
    rw [after, second, ← (others lost 2 _ (by decide) joined lost_readBack second).1 ?_]
    intro x hx
    rcases List.mem_append.1 hx with hx | hx
    · intro move
      have named := cancel_of_mem_journal hx move
      simp [halfway, startWide, startLost] at named
    · have hx : x ∈ [Move.process.entry frayed _, Move.process.entry frayed _] := hx
      rcases List.mem_cons.1 hx with rfl | hx
      · exact Move.noConfusion
      · rw [List.mem_singleton.1 hx]
        exact Move.noConfusion

end SiteWalk.Batch

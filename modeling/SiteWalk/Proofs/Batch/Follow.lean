import SiteWalk.Proofs.Batch.Runs
import SiteWalk.Proofs.Crawl.Within

/-!
# Reports that are handed out

The report of a run says what its own steps came to, and nothing of what else went on in the
store: it is that of the crawl after as many visits, and only the mark of a run that was
called off comes on top.

    Trail site e J s → x ∈ J → x.Starts r run → Follows r site run J s.view.store
-/

namespace SiteWalk.Batch

open Crawl

/-- A run replays its crawl, and its report is not said to be incomplete unless the seed
cannot be read. -/
structure Follows (r : Run) (site : Web) (run : Int) (J : List Entry) (m : Memory) : Prop where
  replays : Replays r site run J m
  whole : ∀ c, m.context? run = some c → c.report.incomplete = true →
    ∀ u, Url.parse r.seed.toText.toList ≠ .ok u

/-- All runs of a journal, among those that are looked at, follow their crawls. -/
def Following (site : Web) (p : Int → Prop) (J : List Entry) (m : Memory) : Prop :=
  ∀ r run, p run → ∀ y ∈ J, y.Starts r run → Follows r site run J m

variable {r : Run} {site : Web} {run : Int} {J : List Entry} {m m' : Memory} {p : Int → Prop}
  {s s' : Session Memory} {x : Entry}

/-! ## Steps -/

theorem Follows.congr (h : Follows r site run J m) (hc : m'.context? run = m.context? run)
    (hs : m'.stepsOf run = m.stepsOf run) : Follows r site run J m' := by
  obtain ⟨t, reached, asked, st⟩ := h.replays
  exact ⟨⟨t, reached, asked, st.congr hc hs⟩, hc ▸ h.whole⟩

/-- What is done to others leaves a run alone. -/
theorem Follows.frame (h : Follows r site run J m) (off : x.on run = false)
    (hc : m'.context? run = m.context? run) (hs : m'.stepsOf run = m.stepsOf run) :
    Follows r site run (J ++ [x]) m' :=
  ⟨h.replays.frame off hc hs, hc ▸ h.whole⟩

/-- Only a step that cannot be carried out makes a report incomplete. -/
theorem whole_own (valid : Valid r) (h : Follows r site run J s.store) (eff : Effect site s x s')
    (old : run ≤ s.store.lastRun) (own : x.Concerns run) {c : Context}
    (context : s'.store.context? run = some c) (incomplete : c.report.incomplete = true) (u : Url) :
    Url.parse r.seed.toText.toList ≠ .ok u := by
  cases eff with
  | idle => exact h.whole c context incomplete u
  | started =>
    have hr : s.store.lastRun + 1 = run := own.started
    omega
  | @dropped q rest c' o top context' =>
    obtain rfl : q.step.run = run := own.processed
    rw [Memory.context?_save (m := s.store.discard q.step.run) context', if_pos rfl] at context
    cases context
    exact h.whole c' context' incomplete u
  | @abandoned q rest c' why top context' on bad =>
    obtain rfl : q.step.run = run := own.processed
    obtain ⟨t, -, -, st⟩ := h.replays
    exact st.unread valid top context' bad u
  | @visited q rest c' r' o v top context' =>
    obtain rfl : q.step.run = run := own.processed
    rw [Memory.context?_complete context', if_pos rfl] at context
    cases context
    exact h.whole c' context' incomplete u
  | @collected run' c' spent context' =>
    obtain rfl : run' = run := own.collected
    rw [Memory.context?_remove context', if_pos rfl] at context
    cases context
  | @calledOff run' c' n context' =>
    obtain rfl : run' = run := own.calledOff
    rw [Memory.context?_discard, Memory.context?_save context', if_pos rfl] at context
    cases context
    exact h.whole c' context' incomplete u

/-- **Every move keeps a run behind its crawl.** -/
theorem follows_effect (valid : Valid r) (sound : s.store.Sound) (old : run ≤ s.store.lastRun)
    (h : Follows r site run J s.store) (eff : Effect site s x s') :
    Follows r site run (J ++ [x]) s'.store := by
  by_cases own : x.Concerns run
  · exact ⟨replays_own valid sound old h.replays eff own, fun _ => whole_own valid h eff old own⟩
  · obtain ⟨hc, hs⟩ := frame_effect sound eff own
    exact h.frame (off_of_not_concerns own) hc hs

theorem follows_begin (kept : Kept J m) : Follows r site (m.lastRun + 1) J (m.begin r) := by
  refine ⟨replays_begin kept, ?_⟩
  intro c context incomplete
  rw [Memory.context?_begin kept.sound, if_pos rfl] at context
  cases context
  cases incomplete

theorem follows_started (kept : Kept J s.store) (eff : Effect site s x s') (hs : x.Starts r run) :
    Follows r site run (J ++ [x]) s'.store := by
  obtain ⟨rfl, hv⟩ := started_of_effect eff hs
  rw [hv]
  exact (follows_begin kept).frame (off_of_starts eff hs _) rfl rfl

/-- A run that is started has a number below all that are given out later. -/
theorem Entry.Starts.le_lastRun (hs : x.Starts r run) (kept : Kept J m) (hx : x ∈ J) :
    run ≤ m.lastRun := by
  obtain ⟨_, _, -, -, -, hr⟩ := hs
  exact kept.names_le x hx run (.inl hr)

theorem following_effect (kept : Kept J s.store) (h : Following site p J s.store)
    (eff : Effect site s x s') : Following site p (J ++ [x]) s'.store := by
  intro r run hp y hy hs
  -- The run is there already, or this move puts it there.
  rcases List.mem_append.1 hy with hy | hy
  · exact follows_effect hs.valid kept.sound (hs.le_lastRun kept hy) (h r run hp y hy hs) eff
  · rw [List.mem_singleton.1 hy] at hs
    exact follows_started kept eff hs

variable {σ : Type} [Store σ] [LawfulStore σ] {e : Env}

theorem following_trail {s : Session σ} (t : Trail site e J s) (p : Int → Prop) :
    Following site p J s.view.store := by
  induction t with
  | start =>
    intro r run _ y hy
    cases hy
  | move before m ih =>
    have kept := kept_trail before
    exact following_effect kept ih (effect site kept.sound.closed m)

/-! ## Handing out -/

theorem collect_some {s : Session σ} {rep : Report} (h : (collect run s).1 = .ok (some rep)) :
    ∃ c, s.view.store.context? run = some c ∧ c.report = rep ∧ s.view.store.stepsOf run = [] := by
  unfold Batch.collect at h
  rw [pending_eq] at h
  by_cases spent : (LawfulStore.view s.store).stepsOf run = []
  · rw [if_neg (by simp [spent])] at h
    cases hc : s.view.store.context? run with
    | none =>
      rw [load_none hc] at h
      cases h
    | some c =>
      rw [load_some hc] at h
      dsimp only at h
      split at h
      · cases h
        exact ⟨c, rfl, rfl, spent⟩
      · cases h
  · rw [if_pos (List.length_pos_iff.2 spent)] at h
    cases h

theorem report_eq {a b : Report} (contents : a.contents = b.contents) (links : a.links = b.links)
    (pages : a.pagesFetched = b.pagesFetched) (failures : a.fetchFailures = b.fetchFailures)
    (incomplete : a.incomplete = b.incomplete) : a = { b with cancelled := a.cancelled } := by
  obtain ⟨_, _, _, _, _, _⟩ := a
  obtain rfl := contents
  obtain rfl := links
  obtain rfl := pages
  obtain rfl := failures
  obtain rfl := incomplete
  rfl

variable {u : Url} {c : Context}

/-- The report of a run is that of its crawl after as many visits, but for the mark of a run
that was called off. -/
theorem Follows.report (h : Follows r site run J m)
    (readable : Url.parse r.seed.toText.toList = .ok u) (context : m.context? run = some c) :
    ∃ t, Run.Reached r.stored site r.first {} (marksOf run J) t ∧
      c.report = { t.report with cancelled := c.report.cancelled } := by
  obtain ⟨t, reached, -, st⟩ := h.replays
  refine ⟨t, reached, ?_⟩
  have hw : c.report.incomplete = false := by
    cases hi : c.report.incomplete with
    | false => rfl
    | true => exact absurd readable (h.whole c context hi u)
  have ht := (Run.unmarked_of_reached ⟨rfl, rfl⟩ reached).2
  cases st with
  | waiting context' =>
    rw [context'] at context
    cases context
    rfl
  | @ended c' context' progress contents links pages failures =>
    rw [context'] at context
    cases context
    exact report_eq contents links pages failures (hw.trans ht.symm)
  | gone context' =>
    rw [context'] at context
    cases context

/-- The report of a run that was not called off is that of its crawl. -/
theorem Follows.report_crawl (h : Follows r site run J m)
    (readBack : Url.parse r.seed.toText.toList = .ok r.seed) (context : m.context? run = some c)
    (spent : m.stepsOf run = []) (kept : ∀ x ∈ J, x.move ≠ .cancel run) :
    c.report = (r.crawl site {}).report := by
  obtain ⟨t, reached, -, st⟩ := h.replays
  rw [Run.stored_eq readBack] at reached
  have early : ¬ Early r run J := by
    rintro (⟨x, hx, hm⟩ | unread)
    · exact kept x hx hm
    · exact unread _ readBack
  rw [crawl_of_stack_nil reached ((st.spent spent).resolve_right early)]
  cases st with
  | waiting context' =>
    rw [context'] at context
    cases context
    rfl
  | ended _ _ _ _ _ _ _ early' => exact absurd early' early
  | gone context' =>
    rw [context'] at context
    cases context

/-- What a report has is the beginning of what that of the crawl has. -/
theorem Follows.within (h : Follows r site run J m)
    (readBack : Url.parse r.seed.toText.toList = .ok r.seed) (context : m.context? run = some c) :
    c.report.Within (r.crawl site {}).report := by
  obtain ⟨t, reached, ht⟩ := h.report readBack context
  rw [Run.stored_eq readBack] at reached
  rw [ht]
  obtain ⟨contents, links, pages, failures⟩ := Run.within_crawl ⟨rfl, rfl⟩ reached
  exact ⟨contents, links, pages, failures⟩

/-- Two reports of one run agree if as many of its nodes were visited and both or none were
called off, whatever was done to others. -/
theorem Follows.report_unique {run' : Int} {J' : List Entry} {c' : Context}
    (h : Follows r site run J m) (h' : Follows r site run' J' m')
    (readable : Url.parse r.seed.toText.toList = .ok u) (context : m.context? run = some c)
    (context' : m'.context? run' = some c')
    (visits : (marksOf run J).length = (marksOf run' J').length)
    (off : c.report.cancelled = c'.report.cancelled) : c.report = c'.report := by
  obtain ⟨t, reached, ht⟩ := h.report readable context
  obtain ⟨t', reached', ht'⟩ := h'.report readable context'
  obtain rfl := Run.reached_unique ⟨rfl, rfl⟩ reached reached' visits
  rw [ht, ht', off]

end SiteWalk.Batch

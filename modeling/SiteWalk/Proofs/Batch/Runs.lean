import SiteWalk.Proofs.Batch.Replay
import SiteWalk.Proofs.Crawl.Books
import SiteWalk.Proofs.Crawl.Coverage
import SiteWalk.Proofs.Url.ReadBack

/-!
# Runs

What holds of all runs, those that are done at once and those whose steps are processed
between the steps of others.  A run in a store comes to what its crawl comes to, its
books are balanced at any time, and it asks for no address that links do not lead to.

    askedFor run J <+: (r.crawl site {}).env.requests.map Request.url   (batch_eq_crawl)
    r.stored.Balanced site (marksOf run J) (askedFor run J) …            (books_balance)
    r.stored.InReach site r.first (askedFor run J)                   (requests_in_reach)
-/

namespace SiteWalk.Batch

open Crawl

variable {σ : Type} [Store σ] [LawfulStore σ] {site : Web} {e : Env} {r : Run} {run : Int}
  {J J₁ J₂ : List Entry} {s : Session σ} {x y : Entry}

/-! ## Entries of a run -/

/-- A run is started before anything else is noted of it. -/
theorem started_before (t : Trail site e J s) (hy : y ∈ J) (hs : y.Starts r run)
    (h : J = J₁ ++ x :: J₂) (hx : x.Touches run) : y ∈ J₁ := by
  rw [h] at hy
  rcases List.mem_append.1 hy with hy | hy
  · exact hy
  rcases List.mem_cons.1 hy with rfl | hy
  · obtain ⟨s₁, m, -, rfl⟩ := t.split h
    obtain ⟨settings, seed, hm, -⟩ := hs
    obtain rfl : m = .start settings seed r.flavor .batched := hm
    rcases hx with hx | ⟨hx, -⟩ <;> cases hx
  · -- A run that is started later has a number above all that were named before.
    obtain ⟨A, B, rfl⟩ := List.append_of_mem hy
    have h' : J = (J₁ ++ x :: A) ++ y :: B := by
      rw [h]
      simp
    obtain ⟨s₁, m, t₁, rfl⟩ := t.split h'
    have kept := kept_trail t₁
    have hle := kept.names_le x (by simp) run (.inr hx)
    have := (started_of_effect (effect site kept.sound.closed m) hs).1
    omega

/-- What is noted of a run is an effect on a store in which the run replays its crawl. -/
theorem replays_before (t : Trail site e J s) (hy : y ∈ J) (hs : y.Starts r run)
    (h : J = J₁ ++ x :: J₂) (hx : x.Touches run) :
    ∃ m m' : Session Memory, Effect site m x m' ∧ Replays r site run J₁ m.store := by
  have hy₁ := started_before t hy hs h hx
  obtain ⟨s₁, m, t₁, rfl⟩ := t.split h
  exact ⟨s₁.view, _, effect site (kept_trail t₁).sound.closed m, replays_trail t₁ hy₁ hs⟩

/-! ## Runs come to what their crawls come to -/

/-- A crawl that has no nodes left is over. -/
theorem crawl_of_stack_nil {log : List Mark} {s : State}
    (reached : r.Reached site r.first {} log s) (h : s.stack = []) : r.crawl site {} = s := by
  have hd := Run.drain_of_reached ⟨rfl, rfl⟩ reached
  rw [Run.drain_nil h] at hd
  exact hd.symm

theorem requests_of_reached {log : List Mark} {s : State}
    (reached : r.Reached site r.first {} log s) :
    s.env.requests <+: (r.crawl site {}).env.requests := by
  have hd := Run.drain_of_reached ⟨rfl, rfl⟩ reached
  have hp : s.env.requests <+: (r.drain site s).env.requests := Run.requests_drain s
  rw [hd] at hp
  exact hp

/-- A step of a run whose seed reads back is carried out. -/
theorem processed_of_on {m m' : Session Memory} {u : Url} (valid : Valid r)
    (readBack : Url.parse r.seed.toText.toList = .ok u) (eff : Effect site m x m')
    (replays : Replays r site run J m.store) (on : x.on run = true) :
    ∃ o, x.reply = .processed (.ok (some o)) := by
  cases eff with
  | idle | started | collected | calledOff => cases on
  | dropped | visited => exact ⟨_, rfl⟩
  | @abandoned q rest c why top context _ bad =>
    obtain rfl : q.step.run = run := eq_of_beq on
    obtain ⟨t, -, -, st⟩ := replays
    exact absurd readBack (st.unread valid top context bad u)

/-- The report of a run that has not ended early is that of a crawl that is over. -/
theorem stack_nil_of_collected {m m' : Session Memory} {s : State} {rep : Report}
    (eff : Effect site m x m') (st : Standing r run J m.store s) (early : ¬ Early r run J)
    (move : x.move = .collect run) (reply : x.reply = .collected (.ok (some rep))) :
    s.stack = [] ∧ rep = s.report := by
  cases eff with
  | idle started collected => exact absurd reply (collected rep)
  | started | dropped | abandoned | visited | calledOff => cases reply
  | collected spent context =>
    cases move
    cases reply
    refine ⟨(st.spent spent).resolve_right early, ?_⟩
    cases st with
    | waiting context' =>
      rw [context'] at context
      cases context
      rfl
    | ended _ _ _ _ _ _ _ early' => exact absurd early' early
    | gone context' =>
      rw [context'] at context
      cases context

/-- **A run in a store comes to what its crawl comes to.**  Whatever else is done with the
store, and by whomever: unless the run is called off, none of its steps fails, its requests
are those of the crawl in their order, all of them once no step is queued, and a report
that is handed out is the report of the crawl.  The address of the seed has to read back, as any
does that is spelt in ASCII (`Link.parse_text_of_ascii`). -/
theorem batch_eq_crawl (site : Web) (e : Env) (calls : List Call) (r : Run) (run : Int)
    (started : ∃ y ∈ journal site calls (⟨Store.empty, e⟩ : Session σ), y.Starts r run)
    (kept : .move (.cancel run) ∉ calls)
    (readBack : Url.parse r.seed.toText.toList = .ok r.seed) :
    let J := journal site calls (⟨Store.empty, e⟩ : Session σ)
    let last := work site calls (⟨Store.empty, e⟩ : Session σ)
    (∀ x ∈ J, ∀ t, x.step = some t → t.run = run →
      ∃ o, x.reply = .processed (.ok (some o))) ∧
    askedFor run J <+: (r.crawl site {}).env.requests.map Request.url ∧
    (Store.pending run last.store = 0 →
      askedFor run J = (r.crawl site {}).env.requests.map Request.url) ∧
    ∀ J₁ x J₂ rep, J = J₁ ++ x :: J₂ → x.move = .collect run →
      x.reply = .collected (.ok (some rep)) →
      rep = (r.crawl site {}).report ∧
        askedFor run J₁ = (r.crawl site {}).env.requests.map Request.url := by
  intro J last
  obtain ⟨y, hy, hs⟩ := started
  have t : Trail site e J last := trail_journal site e calls
  have hr : r.stored = r := Run.stored_eq readBack
  have early : ∀ J₁, J₁ ⊆ J → ¬ Early r run J₁ := by
    intro J₁ hJ h
    rcases h with ⟨x, hx, hm⟩ | h
    · exact kept (cancel_of_mem_journal (hJ hx) hm)
    · exact h _ readBack
  obtain ⟨c, reached, asked, st⟩ := replays_trail t hy hs
  rw [hr] at reached
  refine ⟨?_, ?_, ?_, ?_⟩
  · intro x hx u hu hrun
    have on : x.on run = true := by
      unfold Entry.on
      rw [hu]
      exact beq_iff_eq.2 hrun
    obtain ⟨J₁, J₂, h⟩ := List.append_of_mem hx
    obtain ⟨m, m', eff, replays⟩ := replays_before t hy hs h (.inl on)
    exact processed_of_on hs.valid readBack eff replays on
  · rw [← asked]
    exact (requests_of_reached reached).map _
  · intro spent
    rw [pending_eq, List.length_eq_zero_iff] at spent
    rw [crawl_of_stack_nil reached ((st.spent spent).resolve_right (early J (fun _ h => h))), asked]
  · intro J₁ x J₂ rep h move reply
    obtain ⟨m, m', eff, c₁, reached₁, asked₁, st₁⟩ :=
      replays_before t hy hs h (.inr ⟨move, rep, reply⟩)
    rw [hr] at reached₁
    obtain ⟨hnil, hrep⟩ := stack_nil_of_collected eff st₁
      (early J₁ (by rw [h]; exact List.subset_append_left _ _)) move reply
    rw [crawl_of_stack_nil reached₁ hnil]
    exact ⟨hrep, asked₁.symm⟩

/-- Settings of a crawl that leaves no page out. -/
def plainSettings : Settings :=
  { Settings.standard with walk := { Settings.Walk.standard with excludedPages := "" } }

def plainProfile : Profile where
  settings := plainSettings
  excluded := []
  included? := none
  barred? := none
  selector := .body
  removed := ["script", "style"]

def loopback : Url where
  scheme := "http".toList
  authority := some { host := some (.ipv6 [0, 0, 0, 0, 0, 0, 0, 1]) }
  path := .segments [[]]

def loopbackRun : Run := ⟨plainProfile, loopback, .links⟩

def deadSite : Site := fun u => .error (.status u 404)

/-- Someone puts a run into the store. -/
def begun : List Call := [.move (.start plainSettings "http://[::1]/" .links .batched)]

theorem loopback_readBack : Url.parse loopback.toText.toList = .ok loopback := by
  have read : Link.seed? "http://[::1]/" = .ok loopback := rfl
  exact Link.parse_text_of_ascii read (by decide) (by decide)

theorem loopback_first : loopbackRun.first = ⟨"http://[::1]/", 1⟩ := by decide +kernel

theorem loopback_prepared (run : Int) (n : Node) (p : Progress) (rep : Report) :
    prepare (loopbackRun.stepAt run n) (loopbackRun.context p rep) = .ok loopbackRun := by
  rw [prepare_stepAt (r := loopbackRun) rfl, show loopbackRun.seed = loopback from rfl,
    loopback_readBack]
  rfl

/-- The first page links to `a`, which is missing, and to `b`, which links back. -/
def frayed : Site := fun u =>
  if u = "http://[::1]/" then .ok "<a href=a><a href=b>"
  else if u = "http://[::1]/b" then .ok "<a href=/>"
  else .error (.status u 404)

/-- A crawl of all that `frayed` has. -/
def wide : Run := Run.plain 2

/-- A crawl that begins with a page that is missing. -/
def lost : Run := { Run.plain 1 with seed := { loopback with path := .segments ["c".toList] } }

theorem wide_prepared (run : Int) (n : Node) (p : Progress) (rep : Report) :
    prepare (wide.stepAt run n) (wide.context p rep) = .ok wide := by
  rw [prepare_stepAt (r := wide) rfl, show wide.seed = loopback from rfl, loopback_readBack]
  rfl

theorem lost_readBack : Url.parse lost.seed.toText.toList = .ok lost.seed := by
  have read : Link.seed? "http://[::1]/c" = .ok lost.seed := rfl
  exact Link.parse_text_of_ascii read (by decide) (by decide)

theorem lost_prepared (run : Int) (n : Node) (p : Progress) (rep : Report) :
    prepare (lost.stepAt run n) (lost.context p rep) = .ok lost := by
  rw [prepare_stepAt (r := lost) rfl, lost_readBack]

/-- The progress after requests for these addresses. -/
def far (urls : List String) : Progress := urls.foldl (fun p u => (p.claim u).asked) {}

/-- Someone puts `wide` into the store, -/
def startWide : Move := .start wide.profile.settings "http://[::1]/" .links .batched

/-- and someone else `lost`. -/
def startLost : Move := .start lost.profile.settings "http://[::1]/c" .links .batched

/-- The steps of `wide` are processed, that of `lost` in between. -/
def meanwhile : List Call :=
  [.move .process, .move startLost, .move .process, .move .process, .move .process]

theorem wide_first : wide.first = ⟨"http://[::1]/", 2⟩ := by decide +kernel

theorem lost_first : lost.first = ⟨"http://[::1]/c", 1⟩ := by decide +kernel

theorem visit_wide : ∀ e, wide.visit frayed wide.first {} e =
    ⟨{ url := "http://[::1]/", stage := .childrenScheduled, fetched := true,
       children := [⟨"http://[::1]/a", 1⟩, ⟨"http://[::1]/b", 1⟩] },
      far ["http://[::1]/"], wide.ask "http://[::1]/" 0 e⟩ := by
  rw [wide_first]
  exact Run.visit_of_asked (by decide +kernel) rfl

theorem visit_lost : ∀ e, lost.visit frayed lost.first {} e =
    ⟨{ url := "http://[::1]/c", stage := .fetchFailed, fetched := true },
      far ["http://[::1]/c"], lost.ask "http://[::1]/c" 0 e⟩ := by
  rw [lost_first]
  exact Run.visit_of_asked (by decide +kernel) rfl

theorem visit_missing : ∀ e, wide.visit frayed ⟨"http://[::1]/a", 1⟩ (far ["http://[::1]/"]) e =
    ⟨{ url := "http://[::1]/a", stage := .fetchFailed, fetched := true, link := "http://[::1]/a" },
      far ["http://[::1]/", "http://[::1]/a"], wide.ask "http://[::1]/a" 1 e⟩ :=
  Run.visit_of_asked (by decide +kernel) rfl

theorem visit_last : ∀ e, wide.visit frayed ⟨"http://[::1]/b", 1⟩
      (far ["http://[::1]/", "http://[::1]/a"]) e =
    ⟨{ url := "http://[::1]/b", stage := .childrenScheduled, fetched := true,
       link := "http://[::1]/b" },
      far ["http://[::1]/", "http://[::1]/a", "http://[::1]/b"], wide.ask "http://[::1]/b" 2 e⟩ :=
  Run.visit_of_asked (by decide +kernel) rfl

/-- The store once `wide` is in it. -/
def begunWide : Session Memory := ⟨({} : Memory).begin wide, {}⟩

/-- The entry of putting `wide` into a store that has no runs. -/
def wideEntry : Entry := ⟨startWide, none, .started (.ok (.deferred 1)), []⟩

theorem wideEntry_starts : wideEntry.Starts wide 1 :=
  ⟨wide.profile.settings, "http://[::1]/", rfl, rfl, rfl, rfl⟩

theorem perform_startWide :
    startWide.entry frayed (⟨Store.empty, {}⟩ : Session Memory) = wideEntry ∧
      (startWide.perform frayed (⟨Store.empty, {}⟩ : Session Memory)).2 = begunWide :=
  perform_start (r := wide) frayed rfl rfl {} {}

/-- What `wide` asks for, -/
def wideUrls : List String := ["http://[::1]/", "http://[::1]/a", "http://[::1]/b"]

/-- what it notes of its visits, -/
def wideLog : List Mark := [⟨wide.first, .childrenScheduled⟩,
  ⟨⟨"http://[::1]/a", 1⟩, .fetchFailed⟩, ⟨⟨"http://[::1]/b", 1⟩, .childrenScheduled⟩]

/-- and what it finds. -/
def fringe : Report :=
  { links := ["http://[::1]/a", "http://[::1]/b"], pagesFetched := 2, fetchFailures := 1 }

/-- `wide` on its own, -/
theorem reached_wide : ∃ s, wide.Reached frayed wide.first {} wideLog s ∧ s.stack = [] ∧
    s.progress = far wideUrls ∧ s.report = fringe ∧ s.env.requests.map Request.url = wideUrls :=
  ⟨_, ((Run.Reached.start.visited rfl rfl (visit_wide _)).visited rfl rfl
    (visit_missing _)).visited rfl rfl (visit_last _), rfl, rfl, rfl, rfl⟩

/-- and with `lost` between its steps. -/
theorem does_meanwhile : ∃ J s, Does frayed meanwhile begunWide J s ∧
    marksOf 1 J = wideLog ∧ askedFor 1 J = wideUrls ∧ askedFor 2 J = ["http://[::1]/c"] ∧
    s.env.requests.map (fun q => (q.url, q.time)) = [("http://[::1]/", 0), ("http://[::1]/c", 0),
      ("http://[::1]/a", 500), ("http://[::1]/b", 1000)] ∧
    s.store.steps = [] ∧ s.store.context? 1 = some (wide.context (far wideUrls) fringe) := by
  refine ⟨_, _,
    .cons (perform_visit frayed rfl rfl rfl rfl (wide_prepared 1 _ _ _) (visit_wide _))
    (.cons (perform_start (r := lost) frayed rfl rfl _ _)
    (.cons (perform_visit frayed rfl rfl rfl rfl (lost_prepared 2 _ _ _) (visit_lost _))
    (.cons (perform_visit frayed rfl rfl rfl rfl (wide_prepared 1 _ _ _) (visit_missing _))
    (.cons (perform_visit frayed rfl rfl rfl rfl (wide_prepared 1 _ _ _) (visit_last _))
    (.nil _))))), ?_, ?_, ?_, ?_, ?_, ?_⟩
  all_goals rfl

theorem does_wide {J : List Entry} {s : Session Memory}
    (does : Does frayed meanwhile begunWide J s) :
    Does frayed (.move startWide :: meanwhile) ⟨Store.empty, {}⟩ (wideEntry :: J) s :=
  .cons perform_startWide does

/-- `wide` is collected after `lost` has been processed between its steps. -/
theorem batch_eq_crawl_loopback :
    let calls := .move startWide :: meanwhile ++ [.move (.collect 1)]
    let J := journal frayed calls (⟨Store.empty, {}⟩ : Session Memory)
    askedFor 2 J = ["http://[::1]/c"] ∧
    (wide.crawl frayed {}).env.requests.map Request.url = wideUrls ∧
    (wide.crawl frayed {}).report = fringe ∧
    ∃ J₁ x, J = J₁ ++ [x] ∧ x.move = .collect 1 ∧
      x.reply = .collected (.ok (some fringe)) := by
  obtain ⟨J, s, does, -, asked, other, -, steps, context⟩ := does_meanwhile
  have spent : s.view.store.stepsOf 1 = [] := by
    show (s.store.steps.filter _).map _ = []
    rw [steps]
    rfl
  obtain ⟨s', handed, -⟩ := collect_view (s := s) spent context
  have split : journal frayed (.move startWide :: meanwhile ++ [.move (.collect 1)])
      (⟨Store.empty, {}⟩ : Session Memory) =
        (wideEntry :: J) ++ [(Move.collect 1).entry frayed s] := by
    rw [journal_append, (does_wide does).journal, (does_wide does).work]
    rfl
  have reply : ((Move.collect 1).entry frayed s).reply =
      .collected (.ok (some fringe)) := by
    unfold Move.entry Move.perform
    dsimp only
    rw [handed]
    rfl
  have started : ∃ y ∈ journal frayed (.move startWide :: meanwhile ++ [.move (.collect 1)])
      (⟨Store.empty, {}⟩ : Session Memory), y.Starts wide 1 := by
    refine ⟨wideEntry, ?_, wideEntry_starts⟩
    rw [split]
    exact List.mem_cons_self
  have kept : .move (.cancel 1) ∉ .move startWide :: meanwhile ++ [.move (.collect 1)] := by
    simp [startWide, meanwhile, startLost]
  obtain ⟨-, -, -, collected⟩ := batch_eq_crawl frayed {} _ wide 1 started kept loopback_readBack
  obtain ⟨rep, order⟩ := collected (wideEntry :: J) _ [] _ split rfl reply
  refine ⟨?_, ?_, rep.symm, _, _, split, rfl, reply⟩
  · show askedFor 2 (journal _ _ _) = _
    rw [split, askedFor_append]
    exact congrArg (· ++ []) other
  · rw [← order]
    exact asked

/-! ## Books -/

theorem balanced_of_replays {c : Context} {m : Memory} (replays : Replays r site run J m)
    (context : m.context? run = some c) :
    r.stored.Balanced site (marksOf run J) (askedFor run J) c.progress c.report := by
  obtain ⟨s, reached, asked, st⟩ := replays
  have b := Run.balanced_reached rfl reached
  rw [asked] at b
  cases st with
  | waiting context' =>
    rw [context'] at context
    cases context
    exact b
  | @ended c' context' progress contents links pages failures =>
    rw [context'] at context
    cases context
    rw [progress]
    exact b.congr contents links pages failures
  | gone context' =>
    rw [context'] at context
    cases context

/-- **The books of a run are balanced at any time**, in all states of a crawl, whenever it is
called off, and in all states of a store, whatever else is done with it.  A run in a store
is the run that its steps read back: `r` itself if its seed reads back (`stored_eq`). -/
theorem books_balance (site : Web) (r : Run) :
    (∀ e : Env, e.requests = [] →
      (∃ log, r.Reached site r.first e log (r.crawl site e)) ∧
      ∀ log s, r.Reached site r.first e log s →
        r.Balanced site log (s.env.requests.map Request.url) s.progress s.report) ∧
    ∀ (σ : Type) [Store σ] [LawfulStore σ] (e : Env) (calls : List Call) (run : Int) (c : Context),
      let J := journal site calls (⟨Store.empty, e⟩ : Session σ)
      (∃ y ∈ J, y.Starts r run) →
      Store.load run (work site calls (⟨Store.empty, e⟩ : Session σ)).store = .ok c →
      r.stored.Balanced site (marksOf run J) (askedFor run J) c.progress c.report := by
  constructor
  · intro e he
    exact ⟨Run.reached_crawl r site e, fun log s h => Run.balanced_reached he h⟩
  · intro σ _ _ e calls run c J started hc
    obtain ⟨y, hy, hs⟩ := started
    have t := trail_journal (σ := σ) site e calls
    refine balanced_of_replays (replays_trail t hy hs) ?_
    cases h : (work site calls (⟨Store.empty, e⟩ : Session σ)).view.store.context? run with
    | none =>
      rw [load_none h] at hc
      cases hc
    | some c' =>
      rw [load_some h] at hc
      cases hc
      rfl

/-- Two pages, a failure, and two runs between whose steps nothing gets lost. -/
theorem books_balance_loopback :
    let J := journal frayed (.move startWide :: meanwhile) (⟨Store.empty, {}⟩ : Session Memory)
    (wide.crawl frayed {}).report = fringe ∧
    wide.Balanced frayed wideLog wideUrls (wide.crawl frayed {}).progress
      (wide.crawl frayed {}).report ∧
    marksOf 1 J = wideLog ∧ askedFor 1 J = wideUrls ∧
    wide.stored.Balanced frayed (marksOf 1 J) (askedFor 1 J) (far wideUrls) fringe := by
  intro J
  obtain ⟨t, reached, done, -, report, requests⟩ := reached_wide
  obtain ⟨J', s, does, marks, asked, -, -, -, context⟩ := does_meanwhile
  have journal : J = wideEntry :: J' := (does_wide does).journal
  have crawled : wide.crawl frayed {} = t := crawl_of_stack_nil reached done
  refine ⟨?_, ?_, ?_, ?_, ?_⟩
  · rw [crawled, report]
  · rw [crawled, ← requests]
    exact ((books_balance frayed wide).1 {} rfl).2 wideLog t reached
  · rw [journal, ← marks]
    rfl
  · rw [journal, ← asked]
    rfl
  · refine (books_balance frayed wide).2 Memory {} (.move startWide :: meanwhile) 1
      (wide.context (far wideUrls) fringe) ⟨wideEntry, ?_, wideEntry_starts⟩ ?_
    · rw [(does_wide does).journal]
      exact List.mem_cons_self
    · rw [(does_wide does).work]
      exact load_some (s := s) context

/-! ## Reach -/

theorem traced_of_replays {m : Memory} (replays : Replays r site run J m) :
    ∃ s, Standing r run J m s ∧ Run.Traced r.stored site r.first (askedFor run J) s.stack := by
  obtain ⟨s, reached, asked, st⟩ := replays
  have h := Run.traced_reached rfl reached
  rw [asked] at h
  exact ⟨s, st, h⟩

/-- The steps that wait in a store are for nodes that have been led to. -/
theorem led_of_queued {m : Memory} {q : Queued} (replays : Replays r site run J m)
    (hq : q ∈ m.steps) (hr : q.step.run = run) :
    Run.Led r.stored site r.first (askedFor run J) q.step.node := by
  obtain ⟨s, st, traced⟩ := traced_of_replays replays
  have hm : q.step ∈ m.stepsOf run :=
    List.mem_map_of_mem (List.mem_filter.2 ⟨hq, decide_eq_true hr⟩)
  cases st with
  | waiting context steps =>
    rw [steps] at hm
    obtain ⟨n, hn, hs⟩ := List.mem_map.1 hm
    rw [← hs]
    exact traced.waiting n hn
  | ended _ _ _ _ _ _ steps | gone _ steps =>
    rw [steps] at hm
    cases hm

/-- A node that is claimed has been led to by the requests before. -/
theorem led_of_claimed {m m' : Session Memory} {n : Node} {k : Stage}
    (eff : Effect site m x m') (replays : Replays r site run J m.store)
    (mark : x.mark? run = some ⟨n, k⟩) (claimed : k ≠ .skipped) :
    Run.Led r.stored site r.first (askedFor run J) n := by
  cases eff with
  | idle | started | collected | calledOff | abandoned => cases mark
  | @dropped q rest c o top context off stage =>
    unfold Entry.mark? at mark
    dsimp only at mark
    split at mark
    · cases mark
      exact absurd stage claimed
    · cases mark
  | @visited q rest c r' o v top =>
    unfold Entry.mark? at mark
    dsimp only at mark
    split at mark
    · next hr =>
      cases mark
      refine led_of_queued replays ?_ hr
      rw [top]
      exact List.mem_cons_self
    · cases mark

/-- **A run asks for no address that links do not lead to.**  Every node that waits, and so
every node that is claimed, is at the end of a chain of links that together with the hops
that are left makes up the depth; the addresses of the chain before it were all got. -/
theorem requests_in_reach (site : Web) (r : Run) :
    (∀ e : Env, e.requests = [] →
      (∃ log, r.Reached site r.first e log (r.crawl site e)) ∧
      ∀ log s, r.Reached site r.first e log s →
        (∀ n ∈ s.stack, r.Led site r.first (s.env.requests.map Request.url) n) ∧
        r.InReach site r.first (s.env.requests.map Request.url)) ∧
    ∀ (σ : Type) [Store σ] [LawfulStore σ] (e : Env) (calls : List Call) (run : Int),
      let J := journal site calls (⟨Store.empty, e⟩ : Session σ)
      (∃ y ∈ J, y.Starts r run) →
      (∀ q ∈ Store.queue (work site calls (⟨Store.empty, e⟩ : Session σ)).store,
        q.step.run = run → r.stored.Led site r.first (askedFor run J) q.step.node) ∧
      (∀ J₁ x J₂ n k, J = J₁ ++ x :: J₂ → x.mark? run = some ⟨n, k⟩ → k ≠ .skipped →
        r.stored.Led site r.first (askedFor run J₁) n) ∧
      r.stored.InReach site r.first (askedFor run J) := by
  constructor
  · intro e he
    refine ⟨Run.reached_crawl r site e, ?_⟩
    intro log s h
    have traced := Run.traced_reached he h
    exact ⟨traced.waiting, traced.inReach⟩
  · intro σ _ _ e calls run J started
    obtain ⟨y, hy, hs⟩ := started
    have t := trail_journal (σ := σ) site e calls
    have replays := replays_trail t hy hs
    refine ⟨?_, ?_, ?_⟩
    · intro q hq hr
      rw [LawfulStore.queue_eq] at hq
      exact led_of_queued replays hq hr
    · intro J₁ x J₂ n k h mark claimed
      have on : x.on run = true := by
        cases hon : x.on run with
        | false =>
          rw [mark?_of_off hon] at mark
          cases mark
        | true => rfl
      obtain ⟨m, m', eff, replays₁⟩ := replays_before t hy hs h (.inl on)
      exact led_of_claimed eff replays₁ mark claimed
    · obtain ⟨s, -, traced⟩ := traced_of_replays replays
      exact traced.inReach

/-- `b` waits, and is claimed, at the end of a link from the first page. -/
theorem requests_in_reach_loopback :
    let J := journal frayed (.move startWide :: meanwhile) (⟨Store.empty, {}⟩ : Session Memory)
    wide.Led frayed wide.first ["http://[::1]/"] ⟨"http://[::1]/b", 1⟩ ∧
    wide.InReach frayed wide.first wideUrls ∧
    (∃ J₁ x J₂, J = J₁ ++ x :: J₂ ∧
      x.mark? 1 = some ⟨⟨"http://[::1]/b", 1⟩, .childrenScheduled⟩ ∧
      wide.stored.Led frayed wide.first (askedFor 1 J₁) ⟨"http://[::1]/b", 1⟩) ∧
    askedFor 1 J = wideUrls ∧ wide.stored.InReach frayed wide.first (askedFor 1 J) := by
  intro J
  obtain ⟨reaches, reach⟩ := (requests_in_reach frayed wide).1 {} rfl
  obtain ⟨t, reached, done, -, -, requests⟩ := reached_wide
  obtain ⟨J', s, does, marks, asked, -⟩ := does_meanwhile
  have journal : J = wideEntry :: J' := (does_wide does).journal
  have started : ∃ y ∈ J, y.Starts wide 1 := by
    refine ⟨wideEntry, ?_, wideEntry_starts⟩
    rw [journal]
    exact List.mem_cons_self
  obtain ⟨-, claimed, inReach⟩ := (requests_in_reach frayed wide).2 Memory {}
    (.move startWide :: meanwhile) 1 started
  refine ⟨?_, ?_, ?_, ?_, inReach⟩
  · exact (reach _ _ (Run.Reached.start.visited rfl rfl (visit_wide _))).1 _
      (List.mem_cons_of_mem _ List.mem_cons_self)
  · rw [← requests]
    exact (reach wideLog t reached).2
  · have hm : ⟨⟨"http://[::1]/b", 1⟩, .childrenScheduled⟩ ∈ marksOf 1 J' := by
      rw [marks]
      exact List.mem_cons_of_mem _ (List.mem_cons_of_mem _ List.mem_cons_self)
    obtain ⟨x, hx, mark⟩ := List.mem_filterMap.1 hm
    obtain ⟨J₁, J₂, split⟩ := List.append_of_mem hx
    have split' : J = (wideEntry :: J₁) ++ x :: J₂ := by
      rw [journal, split]
      rfl
    exact ⟨_, x, J₂, split', mark, claimed _ x J₂ _ _ split' mark (by decide)⟩
  · rw [journal, ← asked]
    rfl

end SiteWalk.Batch

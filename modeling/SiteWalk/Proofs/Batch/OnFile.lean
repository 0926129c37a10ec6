import SiteWalk.Batch.Form
import SiteWalk.Proofs.Batch.Grounded
import SiteWalk.Proofs.Batch.Reordered

/-!
# The store on file

The store that outlives a process keeps its contexts and steps as texts.  What is read of
these texts is what was written, but for the order of claims, and so those who work on the
store see the same whenever it is read anew.  They see what they see of the store of one
process (`stores_alike`).

    RowsInRange db.runs db.steps →
      ∃ db', db.reread? = some db' ∧ db'.view.Same db.view             (reread?_same)
-/

namespace SiteWalk.Batch

open Crawl Datum

/-! ## Steps -/

namespace Step

/-- The numbers are those of the types that a step is written in. -/
structure InRange (s : Step) : Prop where
  run : isSigned64 s.run = true
  remaining : s.node.remaining < bound32
  settings : s.settings.InRange

instance (s : Step) : Decidable s.InRange :=
  decidable_of_iff (isSigned64 s.run = true ∧ s.node.remaining < bound32 ∧ s.settings.InRange)
    ⟨fun ⟨run, remaining, settings⟩ => ⟨run, remaining, settings⟩,
      fun ⟨run, remaining, settings⟩ => ⟨run, remaining, settings⟩⟩

theorem ofDatum?_toDatum {s : Step} (h : s.InRange) : ofDatum? s.toDatum = some s := by
  have run : word? (.int s.run) = some s.run := if_pos h.run
  simp [ofDatum?, toDatum, fields?, required?, given?, run, nat?_int h.remaining,
    Flavor.ofDatum?_toDatum, Settings.ofDatum?_toDatum h.settings, text?]

theorem plain_toDatum {s : Step} (h : s.InRange) : Json.Plain s.toDatum := by
  have run : isWord s.run = true := by
    unfold isWord
    rw [h.run, Bool.true_or]
  have remaining : s.node.remaining < bound64 := Nat.lt_trans h.remaining (by decide)
  refine .record ?_
  simp only [List.forall_mem_cons]
  exact ⟨.int run, .text _, plain_nat remaining, .text _, Settings.plain_toDatum h.settings,
    .text _, List.forall_mem_nil _⟩

end Step

/-! ## Contexts -/

namespace Context

/-- The numbers are of 64 bits. -/
structure InRange (c : Context) : Prop where
  fetchCount : c.progress.fetchCount < bound64
  report : c.report.InRange

instance (c : Context) : Decidable c.InRange :=
  decidable_of_iff (c.progress.fetchCount < bound64 ∧ c.report.pagesFetched < bound64 ∧
    c.report.fetchFailures < bound64)
    ⟨fun ⟨fetches, pages, failures⟩ => ⟨fetches, pages, failures⟩,
      fun ⟨fetches, pages, failures⟩ => ⟨fetches, pages, failures⟩⟩

theorem InRange.of_same {c d : Context} (h : c.InRange) (same : d.Same c) : d.InRange := by
  refine ⟨?_, ?_⟩
  · rw [same.progress.fetchCount]
    exact h.fetchCount
  · rw [same.report]
    exact h.report

theorem ofDatum?_toDatum {c : Context} (h : c.InRange) :
    ∃ d, ofDatum? c.toDatum = some d ∧ d.Same c := by
  obtain ⟨p, read, same⟩ := Progress.ofDatum?_toDatum h.fetchCount
  refine ⟨{ c with progress := p }, ?_, ⟨rfl, rfl, rfl, same, rfl, rfl⟩⟩
  simp [ofDatum?, toDatum, fields?, required?, given?, read, Flavor.ofDatum?_toDatum,
    Report.ofDatum?_toDatum h.report, text?, bool?]

theorem plain_toDatum {c : Context} (h : c.InRange) : Json.Plain c.toDatum := by
  refine .record ?_
  simp only [List.forall_mem_cons]
  exact ⟨.text _, .text _, .text _, Progress.plain_toDatum h.fetchCount,
    Report.plain_toDatum h.report, .bool _, List.forall_mem_nil _⟩

end Context

/-! ## Tables -/

/-- What is read of the text that is written of a value. -/
def throughText? {α : Type} (write : α → Datum) (read : Datum → Option α) (a : α) : Option α :=
  (Json.read? (Json.compact (write a))).bind read

theorem throughText?_of_plain {α : Type} {write : α → Datum} {read : Datum → Option α} {a : α}
    (h : Json.Plain (write a)) : throughText? write read a = read (write a) := by
  unfold throughText?
  rw [Json.read?_compact h]
  rfl

theorem mapM_forall₂ {α : Type} {f : α → Option α} {R : α → α → Prop} {xs : List α}
    (h : ∀ x ∈ xs, ∃ y, f x = some y ∧ R y x) :
    ∃ ys, xs.mapM f = some ys ∧ List.Forall₂ R ys xs := by
  induction xs with
  | nil => exact ⟨[], rfl, .nil⟩
  | cons x xs ih =>
    obtain ⟨y, read, same⟩ := h x List.mem_cons_self
    obtain ⟨ys, rest, sameRest⟩ := ih fun z hz => h z (List.mem_cons_of_mem _ hz)
    refine ⟨y :: ys, ?_, .cons same sameRest⟩
    rw [List.mapM_cons, read, rest]
    rfl

/-- The numbers in the documents of all rows are in range. -/
structure RowsInRange (runs : List (Int × Context)) (queue : List Queued) : Prop where
  contexts : ∀ x ∈ runs, x.2.InRange
  steps : ∀ q ∈ queue, q.step.InRange

instance (runs : List (Int × Context)) (queue : List Queued) :
    Decidable (RowsInRange runs queue) :=
  decidable_of_iff ((∀ x ∈ runs, x.2.InRange) ∧ ∀ q ∈ queue, q.step.InRange)
    ⟨fun ⟨contexts, steps⟩ => ⟨contexts, steps⟩, fun ⟨contexts, steps⟩ => ⟨contexts, steps⟩⟩

namespace Relational

/-- The tables with the contexts and the steps that are read of their texts; the numbers of
the rows are columns of their own. -/
def reread? (db : Relational) : Option Relational := do
  let runs ← db.runs.mapM fun x =>
    (throughText? Context.toDatum Context.ofDatum? x.2).map (x.1, ·)
  let steps ← db.steps.mapM fun q =>
    (throughText? Step.toDatum Step.ofDatum? q.step).map (⟨q.id, ·⟩)
  return { db with runs, steps }

/-- **Of tables in range the same is read**, but for the order of claims. -/
theorem reread?_same {db : Relational} (h : RowsInRange db.runs db.steps) :
    ∃ db', db.reread? = some db' ∧ db'.view.Same db.view := by
  obtain ⟨runs, readRuns, sameRuns⟩ : ∃ runs, db.runs.mapM (fun x =>
      (throughText? Context.toDatum Context.ofDatum? x.2).map (x.1, ·)) = some runs ∧
      SameRuns runs db.runs := by
    refine mapM_forall₂ fun x hx => ?_
    have inRange := h.contexts x hx
    obtain ⟨d, read, same⟩ := Context.ofDatum?_toDatum inRange
    refine ⟨(x.1, d), ?_, rfl, same⟩
    rw [throughText?_of_plain (Context.plain_toDatum inRange), read]
    rfl
  obtain ⟨steps, readSteps, sameSteps⟩ : ∃ steps, db.steps.mapM (fun q =>
      (throughText? Step.toDatum Step.ofDatum? q.step).map (⟨q.id, ·⟩)) = some steps ∧
      List.Forall₂ Eq steps db.steps := by
    refine mapM_forall₂ fun q hq => ⟨q, ?_, rfl⟩
    have inRange := h.steps q hq
    rw [throughText?_of_plain (Step.plain_toDatum inRange), Step.ofDatum?_toDatum inRange]
    rfl
  obtain rfl : steps = db.steps := List.forall₂_eq_eq_eq ▸ sameSteps
  refine ⟨{ db with runs := runs }, ?_, ⟨rfl, sameRuns, rfl, rfl⟩⟩
  unfold reread?
  rw [readRuns, readSteps]
  rfl

end Relational

/-! ## Sessions that are taken up again -/

/-- The numbers in the documents of the store are in range. -/
def Memory.InRange (m : Memory) : Prop := RowsInRange m.runs m.steps

/-- The numbers in the documents of the store that is left are in range. -/
def Sight.InRange (x : Sight) : Prop := RowsInRange x.runs x.queue

instance (x : Sight) : Decidable x.InRange :=
  inferInstanceAs (Decidable (RowsInRange x.runs x.queue))

theorem SameRuns.inRange {xs ys : List (Int × Context)} (h : SameRuns xs ys)
    (inRange : ∀ y ∈ ys, y.2.InRange) : ∀ x ∈ xs, x.2.InRange := by
  induction h with
  | nil => exact inRange
  | cons same _ ih =>
    rw [List.forall_mem_cons] at inRange ⊢
    exact ⟨inRange.1.of_same same.2, ih inRange.2⟩

theorem Relational.inRange_of_same {db : Relational} {m : Memory} (h : db.view.Same m)
    (inRange : m.InRange) : RowsInRange db.runs db.steps := by
  refine ⟨h.runs.inRange inRange.contexts, fun q hq => inRange.steps q ?_⟩
  rw [← h.steps]
  exact List.mem_reverse.2 hq

theorem inRange_work {site : Web} {calls : List Call} {s : Session Memory}
    (h : s.store.InRange) (seen : ∀ x ∈ sights site calls s, x.InRange) :
    (work site calls s).store.InRange := by
  induction calls generalizing s with
  | nil => exact h
  | cons c cs ih =>
    rw [sights, List.forall_mem_cons] at seen
    exact ih seen.1 seen.2

/-- What is seen of a store on file by those who take it up one after the other, each of them
for some of the calls. -/
def resumed (site : Web) : List (List Call) → Session Relational → Option (List Sight)
  | [], _ => some []
  | part :: parts, s => do
    let db ← s.store.reread?
    let rest ← resumed site parts (work site part ⟨db, s.env⟩)
    return sights site part ⟨db, s.env⟩ ++ rest

/-- Those who take up the store on file see what others see of the store of one process. -/
theorem resumed_same (site : Web) {parts : List (List Call)} {s : Session Relational}
    {t : Session Memory} (same : s.view.Same t) (inRange : t.store.InRange)
    (seen : ∀ x ∈ sights site parts.flatten t, x.InRange) :
    ∃ reread, resumed site parts s = some reread ∧
      List.Forall₂ Sight.Same reread (sights site parts.flatten t) := by
  induction parts generalizing s t with
  | nil => exact ⟨[], rfl, .nil⟩
  | cons part parts ih =>
    obtain ⟨db, read, reordered⟩ :=
      Relational.reread?_same (Relational.inRange_of_same same.store inRange)
    have again : (Session.view ⟨db, s.env⟩).Same t := ⟨reordered.trans same.store, same.env⟩
    rw [List.flatten_cons, sights_append] at seen ⊢
    rw [List.forall_mem_append] at seen
    have after : (work site part ⟨db, s.env⟩).view.Same (work site part t) := by
      rw [view_work]
      exact same_work site again part
    obtain ⟨rest, resume, sameRest⟩ := ih after (inRange_work inRange seen.1) seen.2
    have now : List.Forall₂ Sight.Same (sights site part ⟨db, s.env⟩) (sights site part t) := by
      rw [sights_view]
      exact same_sights site again part
    refine ⟨sights site part ⟨db, s.env⟩ ++ rest, ?_, List.rel_append now sameRest⟩
    unfold resumed
    rw [read]
    show (resumed site parts (work site part ⟨db, s.env⟩)).bind _ = _
    rw [resume]
    rfl

/-! ## Two stores that are alike -/

/-- Where coordinators are at work each queued step belongs to a stored run. -/
theorem stored_of_seen {site : Web} {e : Env} {calls : List Call} {x : Sight} {q : Queued}
    (hx : x ∈ sights site calls (⟨Store.empty, e⟩ : Session Memory)) (hq : q ∈ x.queue) :
    q.step.run ∈ x.runs.map Prod.fst := by
  obtain ⟨done, runs, queue⟩ := work_of_mem_sights hx
  have sound := (kept_trail (trail_journal (σ := Memory) site e done)).sound
  rw [queue] at hq
  rw [runs]
  exact mem_runIds_iff.2 (sound.closed q hq)

/-- **The store that outlives a process and the store of one process cannot be told apart.**
Whatever calls are made of those who work on them, both empty at first, each call answers the
same, makes the same requests, and leaves the same runs with the same contexts and the same
queue, in which each step belongs to a stored run.  And so it stays when the first store is
closed between the calls and all that it holds is read of its texts again, but for the order
in which a context lists its claims, as long as all numbers are those of the types that they
are written in. -/
theorem stores_alike (site : Web) (e : Env) (parts : List (List Call)) :
    let seen := sights site parts.flatten (⟨Store.empty, e⟩ : Session Memory)
    sights site parts.flatten (⟨Store.empty, e⟩ : Session Relational) = seen ∧
    (∀ x ∈ seen, ∀ q ∈ x.queue, q.step.run ∈ x.runs.map Prod.fst) ∧
    ((∀ x ∈ seen, x.InRange) →
      ∃ reread, resumed site parts ⟨Store.empty, e⟩ = some reread ∧
        List.Forall₂ Sight.Same reread seen) := by
  intro seen
  refine ⟨?_, ?_, ?_⟩
  · exact sights_view site parts.flatten (⟨Store.empty, e⟩ : Session Relational)
  · intro x hx q hq
    exact stored_of_seen hx hq
  · intro inRange
    have start : (Session.view (⟨Store.empty, e⟩ : Session Relational)).Same ⟨Store.empty, e⟩ :=
      ⟨⟨rfl, .nil, rfl, rfl⟩, rfl⟩
    exact resumed_same site start ⟨List.forall_mem_nil _, List.forall_mem_nil _⟩ inRange

/-- A run is started, called off and collected, each time from the file. -/
def handedOver : List (List Call) :=
  [begun, [.move (.cancel 1)], [.move (.collect 1)]]

theorem stores_alike_handedOver :
    (∀ x ∈ sights deadSite handedOver.flatten (⟨Store.empty, {}⟩ : Session Memory), x.InRange) ∧
    ∃ reread, resumed deadSite handedOver ⟨Store.empty, {}⟩ = some reread ∧
      List.Forall₂ Sight.Same reread
        (sights deadSite handedOver.flatten (⟨Store.empty, {}⟩ : Session Memory)) := by
  have inRange : ∀ x ∈ sights deadSite handedOver.flatten (⟨Store.empty, {}⟩ : Session Memory),
      x.InRange := by decide +kernel
  exact ⟨inRange, (stores_alike deadSite {} handedOver).2.2 inRange⟩

end SiteWalk.Batch

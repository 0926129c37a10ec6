import SiteWalk.Cli.Command
import SiteWalk.Proofs.Batch.Runs
import SiteWalk.Proofs.Link.WordList

/-!
# Collecting a run by command

A command that collects a run takes the report out of the store before it puts it anywhere.
There are three exits (`Collected`): nothing is taken, the report gets to where it should go, or
it does not get there and is lost.

    o.task = .collect run → Collected o s run (perform site o s)                     (collected)
-/

namespace SiteWalk.Cli

open Batch Crawl

/-- The store that is there when a command is over: one that was not opened is as it was. -/
def Ending.left (e : Ending) (s : Surroundings) : Option Relational := e.store.or s.store

/-- The report of a run can be taken: the profile is in order and the store opens, it has the
run, and no step of the run is queued. -/
structure Ripe (o : Options) (s : Surroundings) (run : Int) (db : Relational) (c : Context) :
    Prop where
  profile : ∃ p, profileFor o s = .ok p
  store : s.store = some db
  known : Store.load run db = .ok c
  spent : Store.pending run db = 0

/-- A text gets to where the options want it: its file can be written, or standard output takes
it. -/
def Surroundings.delivers (s : Surroundings) (o : Options) (text : List Char) : Bool :=
  match o.output with
  | none => s.takes text
  | some _ => s.canWrite

/-- The text is where the options want it, and nowhere else. -/
def Ending.Shows (e : Ending) (o : Options) (text : List Char) : Prop :=
  match o.output with
  | none => e.printed = text ∧ e.written = none
  | some _ => e.printed = [] ∧ e.written = some text

variable {site : Web} {o : Options} {s : Surroundings} {run : Int} {db db' : Relational}
  {c c' : Context} {p : Profile}

theorem Ripe.unique (ripe : Ripe o s run db c) (ripe' : Ripe o s run db' c') : c = c' := by
  cases ripe.store.symm.trans ripe'.store
  cases ripe.known.symm.trans ripe'.known
  rfl

/-! ## Exits -/

/-- What collecting a run comes to. -/
inductive Collected (o : Options) (s : Surroundings) (run : Int) (e : Ending) : Prop
  /-- Nothing is taken. -/
  | kept (unripe : ∀ db c, ¬ Ripe o s run db c) (trouble : e.trouble ≠ none)
      (store : e.left s = s.store) (printed : e.printed = []) (written : e.written = none)
  /-- The report is taken and shown. -/
  | delivered {db db' : Relational} {c : Context} (ripe : Ripe o s run db c)
      (store : e.store = some db') (gone : Store.load run db' = .error (.missingRun run))
      (delivers : s.delivers o (o.format.render c.flavor c.report) = true)
      (well : e.trouble = none) (shows : e.Shows o (o.format.render c.flavor c.report))
  /-- The report is taken and gets nowhere. -/
  | lost {db db' : Relational} {c : Context} (ripe : Ripe o s run db c)
      (store : e.store = some db') (gone : Store.load run db' = .error (.missingRun run))
      (undelivered : s.delivers o (o.format.render c.flavor c.report) = false)
      (trouble : e.trouble ≠ none) (printed : e.printed = []) (written : e.written = none)

/-- A report that is emitted is shown, or it gets nowhere. -/
theorem emit_exits (o : Options) (s : Surroundings) (flavor : Flavor) (r : Report) :
    let text := o.format.render flavor r
    let e := emit o s flavor r
    (s.delivers o text = true ∧ e.trouble = none ∧ e.Shows o text) ∨
    (s.delivers o text = false ∧ e.trouble ≠ none ∧ e.printed = [] ∧ e.written = none) := by
  intro text e
  unfold Surroundings.delivers Ending.Shows
  cases output : o.output with
  | none =>
    have emitted : e = .print s text := by
      show emit o s flavor r = _
      unfold emit
      rw [output]
    rw [emitted]
    unfold Ending.print
    cases takes : s.takes text with
    | true => exact .inl ⟨rfl, rfl, rfl, rfl⟩
    | false => exact .inr ⟨rfl, nofun, rfl, rfl⟩
  | some path =>
    have emitted :
        e = if s.canWrite then { written := some text } else .fails (.unwritten path) := by
      show emit o s flavor r = _
      unfold emit
      rw [output]
    rw [emitted]
    cases s.canWrite with
    | true => exact .inl ⟨rfl, rfl, rfl, rfl⟩
    | false => exact .inr ⟨rfl, nofun, rfl, rfl⟩

theorem perform_collect (task : o.task = .collect run) (profile : profileFor o s = .ok p)
    (store : s.store = some db) : perform site o s = collect o s run db := by
  unfold perform
  rw [profile]
  dsimp only
  rw [task, store]

/-- A run whose report is handed out is forgotten. -/
theorem gone_of_handed {t : Session Relational}
    (known : Store.load run db = .ok c)
    (view : t.view = ⟨(Memory.remove run (Session.mk db {}).view.store).2, {}⟩) :
    Store.load run t.store = .error (.missingRun run) := by
  have context : (Session.mk db {}).view.store.context? run = some c := context_of_load known
  refine load_none ?_
  rw [view]
  show (Memory.remove run (Session.mk db {}).view.store).2.context? run = none
  rw [Memory.context?_remove context, if_pos rfl]

/-- **Collecting a run has one of three exits.** -/
theorem collected (site : Web) (task : o.task = .collect run) :
    Collected o s run (perform site o s) := by
  cases profile : profileFor o s with
  | error t =>
    have ended : perform site o s = .fails t := by
      unfold perform
      rw [profile]
    rw [ended]
    refine .kept ?_ (by simp [Ending.fails]) rfl rfl rfl
    rintro db c ⟨⟨p, ok⟩, -⟩
    cases profile.symm.trans ok
  | ok p =>
    cases store : s.store with
    | none =>
      have ended : perform site o s = .fails (.unopened o.stateDb) := by
        unfold perform
        rw [profile]
        dsimp only
        rw [task, store]
      rw [ended]
      refine .kept ?_ (by simp [Ending.fails]) rfl rfl rfl
      rintro db c ⟨-, some, -⟩
      cases store.symm.trans some
    | some db =>
      rw [perform_collect task profile store]
      unfold collect
      rcases collect_exits run (Session.mk db {}) with
        ⟨left, h⟩ | ⟨spent, unknown, h⟩ | ⟨spent, c, t, known, h, view⟩
      · have unripe : ∀ db c, ¬ Ripe o s run db c := by
          rintro db' c ⟨-, store', -, spent⟩
          cases store.symm.trans store'
          exact Nat.lt_irrefl 0 (spent ▸ left)
        split
        · exact .kept unripe (by simp) store.symm rfl rfl
        · rw [h]
          exact .kept unripe (by simp) store.symm rfl rfl
      · have unripe : ∀ db c, ¬ Ripe o s run db c := by
          rintro db' c ⟨-, store', known, -⟩
          cases store.symm.trans store'
          cases known.symm.trans unknown
        rw [show Store.load run db = _ from unknown]
        exact .kept unripe (by simp) store.symm rfl rfl
      · have ripe : Ripe o s run db c := ⟨⟨p, profile⟩, store, known, spent⟩
        have gone := gone_of_handed known view
        rw [show Store.load run db = _ from known, h]
        dsimp only
        rcases emit_exits o s c.flavor c.report with
          ⟨delivers, well, shows⟩ | ⟨undelivered, trouble, printed, written⟩
        · exact .delivered ripe rfl gone delivers well shows
        · exact .lost ripe rfl gone undelivered trouble printed written

/-! ## Reports that are lost -/

/-- The report can be taken, but it cannot be put where it should go: into its file, or to
standard output. -/
def Loses (o : Options) (s : Surroundings) (run : Int) : Prop :=
  ∃ db c, Ripe o s run db c ∧ s.delivers o (o.format.render c.flavor c.report) = false

/-- The store has changed when the run has gone. -/
theorem left_ne_of_gone {e : Ending} (ripe : Ripe o s run db c)
    (gone : Store.load run db' = .error (.missingRun run)) (store : e.store = some db') :
    e.left s ≠ s.store := by
  unfold Ending.left
  rw [store, ripe.store]
  intro same
  cases same
  cases gone.symm.trans ripe.known

/-- A report that gets to where it should go is not lost. -/
theorem not_loses (ripe : Ripe o s run db c)
    (delivers : s.delivers o (o.format.render c.flavor c.report) = true) : ¬ Loses o s run := by
  rintro ⟨db', c', ripe', undelivered⟩
  rw [ripe'.unique ripe, delivers] at undelivered
  cases undelivered

/-- What gets nowhere is not shown: there is nothing to be lost in an empty text. -/
theorem not_shows {e : Ending} {text : List Char} (undelivered : s.delivers o text = false)
    (printed : e.printed = []) (written : e.written = none) : ¬ e.Shows o text := by
  unfold Ending.Shows
  unfold Surroundings.delivers at undelivered
  intro shows
  cases output : o.output with
  | none =>
    rw [output] at shows undelivered
    obtain rfl : [] = text := printed.symm.trans shows.1
    cases undelivered
  | some path =>
    rw [output] at shows
    cases written.symm.trans shows.2

/-- A command that collects a run ends well exactly if the report is taken and shown. -/
theorem trouble_eq_none_iff (site : Web) (task : o.task = .collect run) :
    (perform site o s).trouble = none ↔ ∃ db c, Ripe o s run db c ∧
      (perform site o s).Shows o (o.format.render c.flavor c.report) := by
  cases collected (s := s) site task with
  | kept unripe trouble =>
    refine iff_of_false trouble ?_
    rintro ⟨db, c, ripe, -⟩
    exact unripe db c ripe
  | delivered ripe _ _ _ well shows => exact iff_of_true well ⟨_, _, ripe, shows⟩
  | lost ripe _ _ undelivered trouble printed written =>
    refine iff_of_false trouble ?_
    rintro ⟨db, c, ripe', shows⟩
    rw [ripe'.unique ripe] at shows
    exact not_shows undelivered printed written shows

/-- A command that collects a run ends in trouble with another store exactly if it loses the
report. -/
theorem trouble_and_changed_iff (site : Web) (task : o.task = .collect run) :
    (perform site o s).trouble ≠ none ∧ (perform site o s).left s ≠ s.store ↔ Loses o s run := by
  cases collected (s := s) site task with
  | kept unripe _ store =>
    refine iff_of_false (fun h => h.2 store) ?_
    rintro ⟨db, c, ripe, -⟩
    exact unripe db c ripe
  | delivered ripe _ _ delivers well =>
    exact iff_of_false (fun h => h.1 well) (not_loses ripe delivers)
  | lost ripe store gone undelivered trouble =>
    exact iff_of_true ⟨trouble, left_ne_of_gone ripe gone store⟩ ⟨_, _, ripe, undelivered⟩

/-- A run that has gone is collected in vain. -/
theorem collected_gone (site : Web) (task : o.task = .collect run) (store : s.store = some db)
    (gone : Store.load run db = .error (.missingRun run)) :
    (perform site o s).trouble ≠ none ∧ (perform site o s).printed = [] ∧
      (perform site o s).written = none := by
  have unripe : ∀ db c, ¬ Ripe o s run db c := by
    intro db' c ripe
    cases store.symm.trans ripe.store
    cases gone.symm.trans ripe.known
  cases collected (s := s) site task with
  | kept _ trouble _ printed written => exact ⟨trouble, printed, written⟩
  | delivered ripe | lost ripe => exact absurd ripe (unripe _ _)

/-- What is lost is nowhere, and cannot be collected from what is left. -/
theorem nowhere_of_loses (site : Web) (task : o.task = .collect run) (loses : Loses o s run) :
    (perform site o s).printed = [] ∧ (perform site o s).written = none ∧
      ∀ o' s', o'.task = .collect run → s'.store = (perform site o s).left s →
        (perform site o' s').trouble ≠ none ∧ (perform site o' s').printed = [] ∧
          (perform site o' s').written = none := by
  cases collected (s := s) site task with
  | kept unripe =>
    obtain ⟨db, c, ripe, -⟩ := loses
    exact absurd ripe (unripe db c)
  | delivered ripe _ _ delivers => exact absurd loses (not_loses ripe delivers)
  | lost _ taken gone _ _ printed written =>
    refine ⟨printed, written, ?_⟩
    intro o' s' task' store
    refine collected_gone site task' (store.trans ?_) gone
    unfold Ending.left
    rw [taken]
    rfl

/-- **A report is kept, handed out or lost.**  A command that collects a run ends well exactly
if the report can be taken and all of it goes where the options want it.  It ends in trouble
with another store exactly if the report can be taken and its file cannot be written, or
standard output does not take it; if only a part gets through, this counts as lost.  Then the
report is nowhere as a whole, and every command that collects the run from what is left is in
vain. -/
theorem kept_or_lost (site : Web) (o : Options) (s : Surroundings) (run : Int)
    (task : o.task = .collect run) :
    let e := perform site o s
    (e.trouble = none ↔
      ∃ db c, Ripe o s run db c ∧ e.Shows o (o.format.render c.flavor c.report)) ∧
    (e.trouble ≠ none ∧ e.left s ≠ s.store ↔ Loses o s run) ∧
    (Loses o s run → e.printed = [] ∧ e.written = none ∧
      ∀ o' s', o'.task = .collect run → s'.store = e.left s →
        (perform site o' s').trouble ≠ none ∧ (perform site o' s').printed = [] ∧
          (perform site o' s').written = none) :=
  ⟨trouble_eq_none_iff site task, trouble_and_changed_iff site task, nowhere_of_loses site task⟩

/-- The pages that are left out by default are words without slashes. -/
theorem standard_walk : Settings.Walk.standard.fault? = none := by
  unfold Settings.Walk.fault?
  rw [Settings.wordList_standard]
  decide +kernel

/-- The profile of the standard settings is in order. -/
theorem standard_ofSettings : ∃ p, Profile.ofSettings .standard = .ok p := by
  have request : Settings.Request.standard.fault? = none := by decide +kernel
  have valid : Settings.standard.fault? = none := Option.or_eq_none_iff.2 ⟨standard_walk, request⟩
  have body : Profile.selector? .readability "body" = .ok .body := rfl
  exact ⟨_, Profile.ofSettings_eq_ok_iff.2 ⟨valid, none, none, .body, rfl, rfl, body, rfl⟩⟩

/-- Without a profile a run is collected under the standard settings. -/
theorem profileFor_standard (task : o.task = .collect run) (none : o.profile = none) :
    ∃ p, profileFor o s = .ok p := by
  obtain ⟨p, standard⟩ := standard_ofSettings
  refine ⟨p, ?_⟩
  unfold profileFor
  rw [none, standard]
  dsimp only
  rw [if_neg (by simp [task])]
  rfl

/-- A store with one run, which was called off. -/
def oneOver : Relational := { runs := [(1, (loopbackRun.context {} {}).cancel)], lastRun := 1 }

/-- The store opens, but no file can be written. -/
def readOnly : Surroundings := { store := some oneOver, canWrite := false }

/-- The run is collected into a file of a folder that is not there. -/
def toNowhere : Options := { task := .collect 1, output := some "missing/report.txt" }

theorem loses_toNowhere : Loses toNowhere readOnly 1 :=
  ⟨oneOver, _, ⟨profileFor_standard rfl rfl, rfl, rfl, rfl⟩, rfl⟩

/-- The store opens, but nobody reads what is printed. -/
def unread : Surroundings := { store := some oneOver, canPrint := fun _ => false }

def toScreen : Options := { task := .collect 1, format := .json }

theorem loses_toScreen : Loses toScreen unread 1 :=
  ⟨oneOver, _, ⟨profileFor_standard rfl rfl, rfl, rfl, rfl⟩, by decide +kernel⟩

theorem well_toScreen : (perform deadSite toScreen readOnly).trouble = none := by
  obtain ⟨p, profile⟩ := profileFor_standard (o := toScreen) (s := readOnly) rfl rfl
  rw [perform_collect rfl profile rfl]
  decide +kernel

/-- A file that cannot be written, a pipe that nobody reads, and neither of them. -/
theorem kept_or_lost_toNowhere :
    (Loses toNowhere readOnly 1 ∧ (perform deadSite toNowhere readOnly).trouble ≠ none ∧
      (perform deadSite toNowhere readOnly).printed = [] ∧
      (perform deadSite toNowhere readOnly).written = none) ∧
    (Loses toScreen unread 1 ∧ (perform deadSite toScreen unread).trouble ≠ none ∧
      (perform deadSite toScreen unread).left unread ≠ unread.store) ∧
    ∃ db c, Ripe toScreen readOnly 1 db c ∧
      (perform deadSite toScreen readOnly).Shows toScreen
        (toScreen.format.render c.flavor c.report) := by
  obtain ⟨-, changed, lost⟩ := kept_or_lost deadSite toNowhere readOnly 1 rfl
  obtain ⟨printed, written, -⟩ := lost loses_toNowhere
  have unheard := (kept_or_lost deadSite toScreen unread 1 rfl).2.1.2 loses_toScreen
  obtain ⟨well, -⟩ := kept_or_lost deadSite toScreen readOnly 1 rfl
  exact ⟨⟨loses_toNowhere, (changed.2 loses_toNowhere).1, printed, written⟩,
    ⟨loses_toScreen, unheard⟩, well.1 well_toScreen⟩

/-- A command that ends in trouble may leave another store. -/
theorem not_kept_toNowhere :
    ¬ ∀ (site : Web) (o : Options) (s : Surroundings) (run : Int), o.task = .collect run →
      (perform site o s).trouble ≠ none → (perform site o s).left s = s.store := by
  intro kept
  obtain ⟨trouble, changed⟩ :=
    (trouble_and_changed_iff (o := toNowhere) deadSite rfl).2 loses_toNowhere
  exact changed (kept deadSite toNowhere readOnly 1 rfl trouble)

end SiteWalk.Cli

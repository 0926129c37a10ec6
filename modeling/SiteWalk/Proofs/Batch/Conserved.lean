import SiteWalk.Proofs.Batch.Overlap
import SiteWalk.Proofs.Batch.Tampered
import SiteWalk.Proofs.Batch.Without
import SiteWalk.Proofs.Crawl.Contract

/-!
# Steps are conserved

Processing a step is about one run.  The steps of all others stay where they are, with their
numbers, and their contexts stay as they were.  In the run itself a step that is carried out
gives way to one step for each link that is followed, the first link of the page on top, and
all else that is queued lies below as it did.

    Others q.step.run s.store s'.store                                        (Exit.others)
    Store.queue (processStep site s).2.store = new ++ rest                 (steps_conserved)
-/

namespace SiteWalk

namespace Crawl.Run

variable {r : Run} {site : Web} {n c : Node} {p : Progress} {e : Env}

/-! ## Children -/

/-- Where the links of the page of a node lead to, in the order of the page. -/
def linked (r : Run) (site : Web) (n : Node) : List String :=
  match Url.parse n.url.toList, r.sees site n.url with
  | .ok address, .ok page =>
    ((Link.hrefs (r.profile.scope page.toList)).filterMap fun h => Link.resolve? h address).map
      Url.toText
  | _, _ => []

/-- Children are in the order of the links that lead to them. -/
theorem children_sublist_linked :
    ((r.visit site n p e).outcome.children.map Node.url).Sublist (r.linked site n) := by
  have h := r.course site n p e
  generalize r.visit site n p e = v at h
  cases h with
  | skipped | bare | unreadable | failed | last => exact List.nil_sublist _
  | @expanded address page k new needed good answer more =>
    unfold linked
    rw [good, answer]
    dsimp only [children]
    rw [List.map_map, show Node.url ∘ (fun u => Node.mk u k) = id from rfl, List.map_id]
    have followed : (r.profile.links r.seed address page.toList).Sublist _ :=
      Profile.firsts_sublist _ _
    exact List.filter_sublist.trans (followed.trans (List.filter_sublist.map _))

end Crawl.Run

namespace Batch

open Crawl

/-! ## Others -/

/-- The other runs have the same contexts, and the same steps in the same order. -/
structure Others (run : Int) (m m' : Memory) : Prop where
  steps : (m'.without run).steps = (m.without run).steps
  runs : omitted run m'.runs = omitted run m.runs

theorem Others.of_without {run : Int} {m m' : Memory} (h : m'.without run = m.without run) :
    Others run m m' := ⟨congrArg Memory.steps h, congrArg Memory.runs h⟩

/-- The step on top gives way to others of its run. -/
theorem others_complete {m : Memory} {q : Queued} {rest : List Queued} {new : List Step}
    {c c' : Context} (orderly : m.Orderly) (top : m.steps = q :: rest)
    (context : m.context? q.step.run = some c') (own : ∀ t ∈ new, t.run = q.step.run) :
    Others q.step.run m (Memory.complete q.id new q.step.run c m).2 := by
  rw [Memory.complete_top orderly top context]
  constructor
  · obtain ⟨added, hs, ht, -⟩ := Memory.steps_foldl_push new
      { m with steps := rest, runs := replaced q.step.run c m.runs }
    have left : added.filter (fun x => x.step.run ≠ q.step.run) = [] := by
      refine List.filter_eq_nil_iff.2 fun x hx => ?_
      have : x.step ∈ new.reverse := ht ▸ List.mem_map_of_mem hx
      simp [own x.step (List.mem_reverse.1 this)]
    show List.filter _ (List.foldl Memory.push _ new).steps = m.steps.filter _
    rw [hs, List.filter_append, left, top, List.filter_cons_of_neg (by simp)]
    rfl
  · rw [(Memory.pushed new _).1]
    exact omitted_replaced_self c m.runs

/-- **All exits leave the other runs alone.** -/
theorem Exit.others {site : Web} {s s' : Session Memory} {a : Except Failure (Option StepReport)}
    (h : Exit site s a s') (orderly : s.store.Orderly) {q : Queued} {rest : List Queued}
    (top : s.store.steps = q :: rest) : Others q.step.run s.store s'.store := by
  cases h with
  | idle => exact .of_without rfl
  | orphan _ top' =>
    cases top.symm.trans top'
    exact .of_without Memory.without_discard_self
  | dropped _ top' =>
    cases top.symm.trans top'
    exact .of_without (Memory.without_save_self.trans Memory.without_discard_self)
  | abandoned _ top' context =>
    cases top.symm.trans top'
    exact others_complete orderly top context (List.forall_mem_nil _)
  | visited _ top' context =>
    cases top.symm.trans top'
    exact others_complete orderly top context fun _ => run_of_mem_children

/-! ## Queues -/

theorem pending_of_queue {σ : Type} [Store σ] {s : σ} {run : Int} {new rest : List Queued}
    (queue : Store.queue s = new ++ rest) (own : ∀ a ∈ new, a.step.run = run) :
    Store.pending run s = new.length + (rest.filter fun a => a.step.run = run).length := by
  have all : new.filter (fun a => a.step.run = run) = new :=
    List.filter_eq_self.2 fun a ha => decide_eq_true (own a ha)
  unfold Store.pending
  rw [queue, List.filter_append, all, List.length_append]

/-! ## Answers -/

variable {σ : Type} [Store σ] [LawfulStore σ] {s : Session σ} {q : Queued} {rest : List Queued}
  {c : Context} {r : Run}

/-- **An answer is about the run of the step that was next** and says how many steps of it
are queued now. -/
theorem answer_processStep {site : Web} {o : StepReport}
    (h : (processStep site s).1 = .ok (some o)) (top : s.view.store.steps = q :: rest) :
    o.run = q.step.run ∧
      o.remaining = ((processStep site s).2.view.store.stepsOf q.step.run).length := by
  by_cases off : s.env.cancelled = true
  · rw [processStep, claim_idle (.inl off)] at h
    cases h
  cases hctx : s.view.store.context? q.step.run with
  | none =>
    rw [processStep, claim_orphan off top hctx] at h ⊢
    cases h
    show _ ∧ _ = ((Session.view { s with
      store := Store.discard q.step.run s.store }).store.stepsOf q.step.run).length
    rw [Session.view_discard, Memory.stepsOf_discard, if_pos rfl]
    exact ⟨rfl, rfl⟩
  | some c =>
    by_cases dropped : c.cancelled = true
    · obtain ⟨s', he, hv⟩ := settleDropped_view (c := c) hctx
      rw [processStep, claim_top off top hctx, if_pos dropped] at h ⊢
      simp only [settle, he] at h ⊢
      cases h
      rw [hv, Memory.stepsOf_save, Memory.stepsOf_discard, if_pos rfl]
      exact ⟨rfl, rfl⟩
    · cases hp : prepare q.step c with
      | error why =>
        obtain ⟨s', he, -⟩ := abandon_view (c := c) why hctx
        rw [processStep, claim_top off top hctx, if_neg dropped] at h
        simp only [settle, hp, he] at h
        cases h
      | ok r =>
        obtain ⟨s', he, hv⟩ := processStep_visit site (Bool.eq_false_iff.2 off) top hctx
          (Bool.eq_false_iff.2 dropped) hp rfl rfl
        rw [he] at h ⊢
        cases h
        rw [hv]
        exact ⟨rfl, rfl⟩

/-! ## Steps for children -/

/-- A step that is carried out leaves the queue to new steps for its children, the first of
them on top. -/
theorem steps_complete_children (c : Context) (children : List Node) {m : Memory} {c' : Context}
    (orderly : m.Orderly) (top : m.steps = q :: rest) (context : m.context? q.step.run = some c') :
    ∃ new, (Memory.complete q.id (children.map q.step.child).reverse q.step.run c m).2.steps =
        new ++ rest ∧
      new.map Queued.step = children.map q.step.child ∧ ∀ a ∈ new, ∀ b ∈ q :: rest, b.id < a.id := by
  rw [Memory.complete_top orderly top context]
  obtain ⟨new, hs, ht, hid⟩ := Memory.steps_foldl_push (children.map q.step.child).reverse
    { m with steps := rest, runs := replaced q.step.run c m.runs }
  rw [List.reverse_reverse] at ht
  refine ⟨new, hs, ht, ?_⟩
  intro a ha b hb
  have above : m.lastStep < a.id := hid a ha
  have below : b.id ≤ m.lastStep := orderly.steps_le b (top ▸ hb)
  omega

/-- What a step for a child takes over from the step of its parent. -/
structure ChildOf (parent t : Step) : Prop where
  run : t.run = parent.run
  flavor : t.flavor = parent.flavor
  settings : t.settings = parent.settings
  digest : t.digest = parent.digest
  depth : t.depth + 1 = parent.depth

theorem childOf_visit {site : Web} {t : Step} {p : Progress} {e : Env}
    (h : t ∈ (r.visit site q.step.node p e).outcome.children.map q.step.child) :
    ChildOf q.step t := by
  obtain ⟨n, hn, rfl⟩ := List.mem_map.1 h
  exact ⟨rfl, rfl, rfl, rfl, (Run.child_of_visit hn).2.2⟩

/-- **Processing a step concerns its own run only, and no step is lost.**  Whatever operations
a store has been through: the steps of other runs keep their numbers and their order, and the
other contexts stay.  A step that is carried out gives way to one step for each child of its
visit, and these lie on top in the order of the links of the page; and how many steps of a run
are said to be left is how many are queued.  Nothing of this is read off the counters of a
context, which may be full. -/
theorem steps_conserved (σ : Type) [Store σ] [LawfulStore σ] [LawfulOperations σ] (site : Web)
    (ops : List Operation) (e : Env) (on : e.cancelled = false) :
    let s : Session σ := ⟨operate ops, e⟩
    let x := processStep site s
    (Store.queue s.store = [] → x = (.ok none, s)) ∧
    ∀ q rest, Store.queue s.store = q :: rest →
      (Store.queue x.2.store).filter (fun a => a.step.run ≠ q.step.run) =
        rest.filter (fun a => a.step.run ≠ q.step.run) ∧
      (Store.runs x.2.store).filter (fun a => a.1 ≠ q.step.run) =
        (Store.runs s.store).filter (fun a => a.1 ≠ q.step.run) ∧
      (∀ o, x.1 = .ok (some o) →
        o.run = q.step.run ∧ o.remaining = Store.pending q.step.run x.2.store) ∧
      ∀ c r, Store.load q.step.run s.store = .ok c → c.cancelled = false → Fits q.step c r →
        let children := (r.visit site q.step.node c.progress e).outcome.children
        ∃ new o, x.1 = .ok (some o) ∧ Store.queue x.2.store = new ++ rest ∧
          new.map Queued.step = children.map q.step.child ∧
          (children.map Node.url).Sublist (r.linked site q.step.node) ∧
          (∀ a ∈ new, ChildOf q.step a.step ∧ ∀ b ∈ q :: rest, b.id < a.id) ∧
          o.scheduled = children.length ∧
          Store.pending q.step.run x.2.store + 1 =
            Store.pending q.step.run s.store + o.scheduled := by
  intro s x
  have orderly : s.view.store.Orderly := orderly_operate ops
  constructor
  · intro none
    rw [LawfulStore.queue_eq] at none
    show settle site (claim s) s = _
    rw [claim_idle (.inr none)]
    rfl
  intro q rest queue
  have top : s.view.store.steps = q :: rest := (LawfulStore.queue_eq s.store).symm.trans queue
  have others := (exit site s).others orderly top
  refine ⟨?_, ?_, ?_, ?_⟩
  · have same : (x.2.view.store.steps).filter _ = s.view.store.steps.filter _ := others.steps
    rw [top, List.filter_cons_of_neg (by simp)] at same
    rw [LawfulStore.queue_eq]
    exact same
  · rw [LawfulStore.runs_eq, LawfulStore.runs_eq]
    exact others.runs
  · intro o answer
    rw [pending_eq]
    exact answer_processStep answer top
  · intro c r load kept fits children
    have context := context_of_load load
    obtain ⟨s', he, hv⟩ := processStep_visit site on top context kept (prepare_ok_iff.2 fits) rfl rfl
    have hx : x = _ := he
    obtain ⟨new, steps, made, above⟩ := steps_complete_children { c with
        progress := (r.visit site q.step.node c.progress e).progress
        report := c.report.record (r.visit site q.step.node c.progress e).outcome }
      children orderly top context
    have left : Store.queue x.2.store = new ++ rest := by
      rw [LawfulStore.queue_eq, hx]
      exact (congrArg (fun s => s.store.steps) hv).trans steps
    have child : ∀ a ∈ new, ChildOf q.step a.step := by
      intro a ha
      have mem : a.step ∈ children.map q.step.child := by
        rw [← made]
        exact List.mem_map_of_mem ha
      exact childOf_visit mem
    refine ⟨new, _, congrArg Prod.fst hx, left, made, Run.children_sublist_linked,
      fun a ha => ⟨child a ha, above a ha⟩, rfl, ?_⟩
    have many : new.length = children.length := by
      have := congrArg List.length made
      rwa [List.length_map, List.length_map] at this
    have first : Store.queue s.store = [q] ++ rest := queue
    rw [pending_of_queue left fun a ha => (child a ha).run, pending_of_queue first (by simp), many]
    show children.length + _ + 1 = 1 + _ + children.length
    omega

/-- Two runs, of which nothing has been processed. -/
def beside : List Operation := untouched loopbackRun 1 ++ untouched loopbackRun 2

theorem queue_beside : Store.queue (operate beside : Relational) =
    [⟨2, loopbackRun.stepAt 2 loopbackRun.first⟩, ⟨1, loopbackRun.stepAt 1 loopbackRun.first⟩] :=
  rfl

theorem steps_conserved_beside :
    let x := processStep onward (⟨operate beside, {}⟩ : Session Relational)
    (Store.queue x.2.store).filter (fun a => a.step.run ≠ 2) =
        [⟨1, loopbackRun.stepAt 1 loopbackRun.first⟩] ∧
      ∃ new o, x.1 = .ok (some o) ∧ o.remaining = Store.pending 2 x.2.store ∧
        Store.queue x.2.store = new ++ [⟨1, loopbackRun.stepAt 1 loopbackRun.first⟩] ∧
        new.map Queued.step = [loopbackRun.stepAt 2 ⟨"http://[::1]/a", 0⟩] := by
  obtain ⟨steps, -, answer, visit⟩ := (steps_conserved Relational onward beside {} rfl).2
    _ _ queue_beside
  obtain ⟨new, o, told, queue, made, -⟩ := visit (loopbackRun.context {} {}) loopbackRun rfl rfl
    (prepare_ok_iff.1 (loopback_prepared 2 _ {} {}))
  refine ⟨steps, new, o, told, (answer o told).2, queue, made.trans ?_⟩
  show (loopbackRun.visit onward loopbackRun.first {} {}).outcome.children.map
    (loopbackRun.stepAt 2) = _
  rw [children_onward]
  rfl

end Batch

end SiteWalk

import SiteWalk.Proofs.Field.Deferred

/-!
# Crawls that are refused

A crawl is refused for its seed, and a crawl for a field also for what the caller may do and
for what the field holds.  All of it is looked at before anything is done, and so a refusal
leaves the entity, the store, the clock and the requests as they were.  The same holds of a
batch run that is not handed out, because steps of it are queued or because it is unknown.

    c.start text flavor mode s = (.error why, s') ↔
      (∃ f, why = .seed f ∧ Link.Unusable text f) ∧ s' = s                     (start_error_iff)
    populate c granted m mode e s = (.error why, e', s') ↔
      Refused granted m e why ∧ e' = e ∧ s' = s                             (populate_error_iff)
-/

namespace SiteWalk

namespace Link

/-! ## Seeds -/

/-- Why a text is no address to start from: it cannot be read, it is not of the web, or it
names no host. -/
inductive Unusable (raw : String) : SeedError → Prop
  | unreadable {why : Url.ParseError} (bad : Url.parse (Text.trim raw.toList) = .error why) :
      Unusable raw (.unreadable raw why)
  | scheme {u : Url} (read : Url.parse (Text.trim raw.toList) = .ok u) (other : u.isWeb = false) :
      Unusable raw (.scheme (String.ofList u.scheme))
  | hostless {u : Url} (read : Url.parse (Text.trim raw.toList) = .ok u) (web : u.isWeb = true)
      (bare : u.host? = none) : Unusable raw .hostless

theorem seed?_error_iff {raw : String} {f : SeedError} :
    seed? raw = .error f ↔ Unusable raw f := by
  unfold seed?
  cases read : Url.parse (Text.trim raw.toList) with
  | error why =>
    dsimp only
    constructor
    · intro h
      cases h
      exact .unreadable read
    · intro h
      cases h with
      | unreadable bad => cases read.symm.trans bad; rfl
      | scheme ok | hostless ok => cases read.symm.trans ok
  | ok u =>
    dsimp only
    constructor
    · intro h
      split at h
      · next other =>
        cases h
        exact .scheme read (by simpa using other)
      next web =>
      split at h
      · next bare =>
        cases h
        exact .hostless read (by simpa using web) (Option.isNone_iff_eq_none.1 bare)
      · cases h
    · intro h
      cases h with
      | unreadable bad => cases read.symm.trans bad
      | scheme ok other =>
        cases read.symm.trans ok
        simp [other]
      | hostless ok web bare =>
        cases read.symm.trans ok
        simp [web, bare]

end Link

namespace Batch

open Crawl

variable {σ : Type} [Store σ] [LawfulStore σ] {s s' : Session σ} {why : Failure}

/-! ## Starting -/

/-- A crawl from an address is not refused. -/
theorem start_of_seed? {text : String} {u : Url} (c : Coordinator) (flavor : Flavor) (mode : Mode)
    (s : Session σ) (usable : Link.seed? text = .ok u) :
    ∃ x s', c.start text flavor mode s = (.ok x, s') := by
  unfold Coordinator.start
  rw [usable]
  cases mode with
  | synchronous => exact ⟨_, _, rfl⟩
  | batched =>
    obtain ⟨s', begun, -⟩ := enqueue_view c u flavor s
    dsimp only
    rw [begun]
    exact ⟨_, _, rfl⟩

theorem start_error_iff {c : Coordinator} {text : String} {flavor : Flavor} {mode : Mode} :
    c.start text flavor mode s = (.error why, s') ↔
      (∃ f, why = .seed f ∧ Link.Unusable text f) ∧ s' = s := by
  cases read : Link.seed? text with
  | error f =>
    have refused : c.start text flavor mode s = (.error (.seed f), s) := by
      unfold Coordinator.start
      rw [read]
    rw [refused]
    constructor
    · intro h
      cases h
      exact ⟨⟨f, rfl, Link.seed?_error_iff.1 read⟩, rfl⟩
    · rintro ⟨⟨g, rfl, bad⟩, rfl⟩
      cases read.symm.trans (Link.seed?_error_iff.2 bad)
      rfl
  | ok u =>
    obtain ⟨x, s'', begun⟩ := start_of_seed? c flavor mode s read
    rw [begun]
    constructor
    · intro h
      cases h
    · rintro ⟨⟨g, -, bad⟩, -⟩
      cases read.symm.trans (Link.seed?_error_iff.2 bad)

end Batch

namespace Field

open Batch Crawl

variable {σ : Type} [Store σ] [LawfulStore σ] {c : Coordinator} {granted : List String}
  {m : Mapping} {mode : Mode} {e e' : Entity} {s s' : Session σ} {run : Int} {why : Failure}

/-! ## Seeds in fields -/

theorem seed_error_iff {field : String} :
    seed e field = .error why ↔
      why = .noSeed field ∧ ∀ v ∈ e.values field, Text.trim v.payload.toList = [] := by
  have blank : (((e.values field).map fun v => Text.trim v.payload.toList).find?
      (!·.isEmpty)) = none ↔ ∀ v ∈ e.values field, Text.trim v.payload.toList = [] := by
    simp
  unfold seed
  rw [← blank]
  split
  · next found => simp [found]
  · next none => simp [none, eq_comm]

/-! ## Populating -/

/-- Why a crawl for a field is refused: the caller may not crawl, the field holds nothing but
blanks, or what it holds is no address to start from. -/
inductive Refused (granted : List String) (m : Mapping) (e : Entity) : Failure → Prop
  | capability (without : crawlCapability ∉ granted) :
      Refused granted m e (.capability crawlCapability)
  | noSeed (grants : crawlCapability ∈ granted)
      (blank : ∀ v ∈ e.values m.source, Text.trim v.payload.toList = []) :
      Refused granted m e (.noSeed m.source)
  | address {text : String} {f : Link.SeedError} (grants : crawlCapability ∈ granted)
      (found : seed e m.source = .ok text) (bad : Link.Unusable text f) :
      Refused granted m e (.seed f)

theorem populate_error_iff :
    populate c granted m mode e s = (.error why, e', s') ↔
      Refused granted m e why ∧ e' = e ∧ s' = s := by
  by_cases grants : crawlCapability ∈ granted
  · cases found : seed e m.source with
    | error reason =>
      have refused : populate c granted m mode e s = (.error reason, e, s) := by
        simp [populate, grants, found]
      obtain ⟨rfl, blank⟩ := seed_error_iff.1 found
      rw [refused]
      constructor
      · intro h
        cases h
        exact ⟨.noSeed grants blank, rfl, rfl⟩
      · rintro ⟨h, rfl, rfl⟩
        cases h with
        | capability without => exact absurd grants without
        | noSeed => rfl
        | address _ found' => cases found.symm.trans found'
    | ok text =>
      rw [populate_granted grants found]
      constructor
      · intro h
        split at h
        · next reason s'' started =>
          cases h
          obtain ⟨⟨f, rfl, bad⟩, rfl⟩ := start_error_iff.1 started
          exact ⟨.address grants found bad, rfl, rfl⟩
        · cases h
        · cases h
      · rintro ⟨h, rfl, rfl⟩
        cases h with
        | capability without => exact absurd grants without
        | noSeed _ blank => cases found.symm.trans (seed_error_iff.2 ⟨rfl, blank⟩)
        | address _ found' bad =>
          cases found.symm.trans found'
          rw [start_error_iff.2 ⟨⟨_, rfl, bad⟩, rfl⟩]
  · have refused : populate c granted m mode e s = (.error (.capability crawlCapability), e, s) := by
      simp [populate, grants]
    rw [refused]
    constructor
    · intro h
      cases h
      exact ⟨.capability grants, rfl, rfl⟩
    · rintro ⟨h, rfl, rfl⟩
      cases h with
      | capability => rfl
      | noSeed granted' | address granted' => exact absurd granted' grants

/-! ## Finishing -/

theorem finish_error_iff :
    finish run m e s = (.error why, e', s') ↔
      (why = .store (.missingRun run) ∧ Store.pending run s.store = 0 ∧
        Store.load run s.store = .error (.missingRun run)) ∧ e' = e ∧ s' = s := by
  unfold finish
  rcases collect_exits run s with ⟨left, h⟩ | ⟨none, unknown, h⟩ | ⟨-, d, s'', known, h, -⟩
  · rw [h]
    constructor
    · intro h
      cases h
    · rintro ⟨⟨-, none, -⟩, -⟩
      omega
  · rw [h]
    constructor
    · intro h
      cases h
      exact ⟨⟨rfl, none, unknown⟩, rfl, rfl⟩
    · rintro ⟨⟨rfl, -⟩, rfl, rfl⟩
      rfl
  · rw [h]
    constructor
    · intro h
      cases h
    · rintro ⟨⟨-, -, unknown⟩, -⟩
      cases known.symm.trans unknown

theorem finish_none_iff :
    finish run m e s = (.ok none, e', s') ↔ Store.pending run s.store > 0 ∧ e' = e ∧ s' = s := by
  unfold finish
  rcases collect_exits run s with ⟨left, h⟩ | ⟨none, -, h⟩ | ⟨none, d, s'', -, h, -⟩
  · rw [h]
    constructor
    · intro h
      cases h
      exact ⟨left, rfl, rfl⟩
    · rintro ⟨-, rfl, rfl⟩
      rfl
  all_goals
    rw [h]
    constructor
    · intro h
      cases h
    · rintro ⟨left, -⟩
      omega

/-- **What is refused leaves everything as it was.**  Whatever is in the store: a crawl is
refused exactly if its seed cannot be read, is not of the web or names no host; a crawl for a
field exactly if the caller may not crawl, the field holds only blanks or no such seed; and
then the entity is the same, and so are the store, the clock and the requests.  A batch run is
not finished exactly if steps of it are queued, or if none is and it is unknown, and that too
changes nothing. -/
theorem refused_untouched (σ : Type) [Store σ] [LawfulStore σ] (c : Coordinator) (e : Entity)
    (s : Session σ) :
    (∀ text flavor mode why s', c.start text flavor mode s = (.error why, s') ↔
      (∃ f, why = .seed f ∧ Link.Unusable text f) ∧ s' = s) ∧
    (∀ granted m mode why e' s', populate c granted m mode e s = (.error why, e', s') ↔
      Refused granted m e why ∧ e' = e ∧ s' = s) ∧
    (∀ run m why e' s', finish run m e s = (.error why, e', s') ↔
      (why = .store (.missingRun run) ∧ Store.pending run s.store = 0 ∧
        Store.load run s.store = .error (.missingRun run)) ∧ e' = e ∧ s' = s) ∧
    ∀ run m e' s', finish run m e s = (.ok none, e', s') ↔
      Store.pending run s.store > 0 ∧ e' = e ∧ s' = s :=
  ⟨fun _ _ _ _ _ => start_error_iff, fun _ _ _ _ _ _ => populate_error_iff,
    fun _ _ _ _ _ => finish_error_iff, fun _ _ _ _ => finish_none_iff⟩

end Field

end SiteWalk

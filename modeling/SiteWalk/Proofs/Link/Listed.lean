import SiteWalk.Profile

/-!
# The links of a page

A page lists every address that one of its hrefs leads to and that may be followed: once, in
the order in which the page first leads there.  One more href changes nothing if it leads
nowhere, or where an href before it leads to.

    url ∈ p.links seed address page ↔
      ∃ h ∈ hrefs (p.scope page), p.LeadsTo seed address h url                   (mem_links)
    (p.links seed address page).Pairwise fun u v =>
      p.place seed address page u < p.place seed address page v              (links_pairwise)
-/

namespace SiteWalk.Profile

/-! ## Firsts -/

section Firsts

variable {α β : Type} [BEq β] {seen l m : List β} {a : β}

theorem firsts_sublist (seen l : List β) : (firsts seen l).Sublist l := by
  induction l generalizing seen with
  | nil => exact List.Sublist.refl _
  | cons a l ih =>
    unfold firsts
    split
    · exact (ih seen).cons a
    · exact (ih (a :: seen)).cons_cons a

variable [LawfulBEq β]

theorem mem_firsts : a ∈ firsts seen l ↔ a ∈ l ∧ a ∉ seen := by
  induction l generalizing seen with
  | nil => simp [firsts]
  | cons b l ih =>
    unfold firsts
    split
    · next old =>
      rw [ih, List.mem_cons]
      have old : b ∈ seen := List.contains_iff_mem.1 old
      constructor
      · rintro ⟨later, new⟩
        exact ⟨.inr later, new⟩
      · rintro ⟨rfl | later, new⟩
        · exact absurd old new
        · exact ⟨later, new⟩
    · next new =>
      rw [List.mem_cons, List.mem_cons, ih, List.mem_cons]
      have new : b ∉ seen := fun old => new (List.contains_iff_mem.2 old)
      by_cases first : a = b
      · subst first
        simp [new]
      · simp [first]

theorem nodup_firsts (seen l : List β) : (firsts seen l).Nodup := by
  induction l generalizing seen with
  | nil => exact List.nodup_nil
  | cons a l ih =>
    unfold firsts
    split
    · exact ih seen
    · refine List.nodup_cons.2 ⟨?_, ih (a :: seen)⟩
      intro again
      exact (mem_firsts.1 again).2 List.mem_cons_self

/-- What has been seen already may stand in the list once more. -/
theorem firsts_insert (old : a ∈ seen ∨ a ∈ l) (m : List β) :
    firsts seen (l ++ a :: m) = firsts seen (l ++ m) := by
  induction l generalizing seen with
  | nil =>
    have old : a ∈ seen := old.resolve_right List.not_mem_nil
    rw [List.nil_append, List.nil_append, firsts, if_pos (List.contains_iff_mem.2 old)]
  | cons b l ih =>
    rw [List.cons_append, List.cons_append, firsts, firsts]
    split
    · next seenB =>
      apply ih
      rcases old with old | old
      · exact .inl old
      · rcases List.mem_cons.1 old with rfl | later
        · exact .inl (List.contains_iff_mem.1 seenB)
        · exact .inr later
    · congr 1
      apply ih
      rcases old with old | old
      · exact .inl (List.mem_cons_of_mem b old)
      · rcases List.mem_cons.1 old with rfl | later
        · exact .inl List.mem_cons_self
        · exact .inr later

/-- The firsts of what a list is mapped to stand in the order of the places that are first
mapped to them. -/
theorem firsts_filterMap_pairwise (f : α → Option β) (xs : List α) (seen : List β) :
    (firsts seen (xs.filterMap f)).Pairwise fun u v =>
      xs.findIdx (fun x => f x == some u) < xs.findIdx (fun x => f x == some v) := by
  induction xs generalizing seen with
  | nil => exact .nil
  | cons x xs ih =>
    -- an element that `x` is not mapped to has its place further behind
    have behind {u : β} (other : f x ≠ some u) :
        (x :: xs).findIdx (fun y => f y == some u) =
          xs.findIdx (fun y => f y == some u) + 1 := by
      rw [List.findIdx_cons, beq_false_of_ne other]
      rfl
    have shift {seen : List β} (h : ∀ u ∈ firsts seen (xs.filterMap f), f x ≠ some u) :
        (firsts seen (xs.filterMap f)).Pairwise fun u v =>
          (x :: xs).findIdx (fun y => f y == some u) <
            (x :: xs).findIdx (fun y => f y == some v) := by
      refine (ih seen).imp_of_mem ?_
      intro u v hu hv before
      rw [behind (h u hu), behind (h v hv)]
      exact Nat.succ_lt_succ before
    cases hx : f x with
    | none =>
      rw [List.filterMap_cons_none hx]
      apply shift
      intro u _
      rw [hx]
      exact nofun
    | some b =>
      rw [List.filterMap_cons_some hx, firsts]
      have other {seen : List β} (old : b ∈ seen) :
          ∀ u ∈ firsts seen (xs.filterMap f), f x ≠ some u := by
        intro u hu same
        rw [hx] at same
        cases same
        exact (mem_firsts.1 hu).2 old
      split
      · next old => exact shift (other (List.contains_iff_mem.1 old))
      · refine List.pairwise_cons.2 ⟨?_, shift (other List.mem_cons_self)⟩
        intro v hv
        have first : (x :: xs).findIdx (fun y => f y == some b) = 0 := by
          rw [List.findIdx_cons, hx, beq_self_eq_true]
          rfl
        rw [first, behind (other List.mem_cons_self v hv)]
        exact Nat.succ_pos _

end Firsts

/-! ## Links -/

variable {p : Profile} {seed address : Url} {page : List Char} {href : List Char} {url : String}

/-- An href on the page at `address` leads to the address `url`, which a crawl from `seed` may
follow. -/
def LeadsTo (p : Profile) (seed address : Url) (href : List Char) (url : String) : Prop :=
  ∃ u, Link.resolve? href address = some u ∧ u.toText = url ∧ p.accepts seed u = true

/-- The address that an href leads to, if it may be followed. -/
def target? (p : Profile) (seed address : Url) (href : List Char) : Option String :=
  ((Link.resolve? href address).filter (p.accepts seed)).map Url.toText

theorem target?_eq_some_iff :
    p.target? seed address href = some url ↔ p.LeadsTo seed address href url := by
  unfold target? LeadsTo
  rw [Option.map_eq_some_iff]
  refine exists_congr fun u => ?_
  rw [Option.filter_eq_some_iff, and_assoc, and_comm (a := p.accepts seed u = true)]

instance : Decidable (p.LeadsTo seed address href url) :=
  decidable_of_iff _ target?_eq_some_iff

/-- Which href of a page is the first that leads to an address. -/
def place (p : Profile) (seed address : Url) (page : List Char) (url : String) : Nat :=
  (Link.hrefs (p.scope page)).findIdx fun h => p.LeadsTo seed address h url

theorem links_eq : p.links seed address page =
    firsts [] ((Link.hrefs (p.scope page)).filterMap (p.target? seed address)) := by
  unfold links target?
  rw [← List.filterMap_eq_filter, List.filterMap_filterMap, List.map_filterMap]
  congr 2
  funext h
  cases Link.resolve? h address with
  | none => rfl
  | some u =>
    rw [Option.bind_some, Option.filter_some, Option.guard]

theorem mem_links : url ∈ p.links seed address page ↔
    ∃ h ∈ Link.hrefs (p.scope page), p.LeadsTo seed address h url := by
  rw [links_eq, mem_firsts, List.mem_filterMap]
  simp only [target?_eq_some_iff, List.not_mem_nil, not_false_eq_true, and_true]

theorem links_pairwise : (p.links seed address page).Pairwise fun u v =>
    p.place seed address page u < p.place seed address page v := by
  have same (u : String) : p.place seed address page u =
      (Link.hrefs (p.scope page)).findIdx fun h => p.target? seed address h == some u := by
    unfold place
    congr 1
    funext h
    rw [Bool.eq_iff_iff, decide_eq_true_iff, beq_iff_eq, target?_eq_some_iff]
  simp only [same, links_eq]
  exact firsts_filterMap_pairwise _ _ _

/-- An href that leads nowhere, or where an href before it leads to, may be left out. -/
theorem links_insert {page' : List Char} {front back : List (List Char)}
    (short : Link.hrefs (p.scope page) = front ++ back)
    (long : Link.hrefs (p.scope page') = front ++ href :: back)
    (idle : ∀ url, p.LeadsTo seed address href url →
      ∃ h ∈ front, p.LeadsTo seed address h url) :
    p.links seed address page' = p.links seed address page := by
  rw [links_eq, links_eq, short, long, List.filterMap_append, List.filterMap_append]
  cases target : p.target? seed address href with
  | none => rw [List.filterMap_cons_none target]
  | some url =>
    rw [List.filterMap_cons_some target]
    apply firsts_insert
    obtain ⟨h, before, leads⟩ := idle url (target?_eq_some_iff.1 target)
    exact .inr (List.mem_filterMap.2 ⟨h, before, target?_eq_some_iff.2 leads⟩)

/-- **The links of a page are what its hrefs lead to**, as far as it may be followed: each once,
and in the order in which the page first leads there.  A further href of the page changes
nothing if it cannot be resolved, if it may not be followed, or if an href before it leads to
the same address. -/
theorem links_in_order (p : Profile) (seed address : Url) (page : List Char) :
    (p.links seed address page).Nodup ∧
    (∀ url, url ∈ p.links seed address page ↔
      ∃ h ∈ Link.hrefs (p.scope page), p.LeadsTo seed address h url) ∧
    ((p.links seed address page).Pairwise fun u v =>
      p.place seed address page u < p.place seed address page v) ∧
    ∀ page' href front back, Link.hrefs (p.scope page) = front ++ back →
      Link.hrefs (p.scope page') = front ++ href :: back →
      (∀ u, Link.resolve? href address = some u → p.accepts seed u = false ∨
        ∃ h ∈ front, p.LeadsTo seed address h u.toText) →
      p.links seed address page' = p.links seed address page := by
  refine ⟨?_, fun _ => mem_links, links_pairwise, ?_⟩
  · rw [links_eq]
    exact nodup_firsts _ _
  · intro page' href front back short long idle
    refine links_insert short long ?_
    rintro url ⟨u, target, rfl, may⟩
    rcases idle u target with barred | before
    · rw [may] at barred
      cases barred
    · exact before

/-- A crawl of one host that leaves the page `a` out. -/
def withoutA : Profile where
  settings := { Settings.standard with
    walk := { Settings.Walk.standard with excludedPages := "a" } }
  excluded := ["a"]
  included? := none
  barred? := none
  selector := .body
  removed := ["script", "style"]

/-- The first page of this machine. -/
def nearby : Url where
  scheme := "http".toList
  authority := some { host := some (.ipv6 [0, 0, 0, 0, 0, 0, 0, 1]) }
  path := .segments [[]]

/-- One href leads to `b` once more, to another place. -/
theorem links_in_order_again :
    Link.hrefs (withoutA.scope "<body><a href=b><a href=/a><a href=c>".toList) =
      ["b".toList, "/a".toList] ++ ["c".toList] ∧
    Link.hrefs (withoutA.scope "<body><a href=b><a href=/a><a href='b#x'><a href=c>".toList) =
      ["b".toList, "/a".toList] ++ "b#x".toList :: ["c".toList] ∧
    withoutA.links nearby nearby
        "<body><a href=b><a href=/a><a href='b#x'><a href=c>".toList =
      withoutA.links nearby nearby "<body><a href=b><a href=/a><a href=c>".toList ∧
    "http://[::1]/c" ∈ withoutA.links nearby nearby
      "<body><a href=b><a href=/a><a href=c>".toList := by
  obtain ⟨-, mem, -, insert⟩ :=
    links_in_order withoutA nearby nearby "<body><a href=b><a href=/a><a href=c>".toList
  have short : Link.hrefs (withoutA.scope "<body><a href=b><a href=/a><a href=c>".toList) =
      ["b".toList, "/a".toList] ++ ["c".toList] := by decide +kernel
  have long :
      Link.hrefs (withoutA.scope "<body><a href=b><a href=/a><a href='b#x'><a href=c>".toList) =
        ["b".toList, "/a".toList] ++ "b#x".toList :: ["c".toList] := by decide +kernel
  refine ⟨short, long, insert _ _ _ _ short long ?_, (mem _).2 ?_⟩
  · intro u target
    right
    have first : withoutA.LeadsTo nearby nearby "b".toList "http://[::1]/b" := by decide +kernel
    have again : (Link.resolve? "b#x".toList nearby).map Url.toText = some "http://[::1]/b" := by
      decide +kernel
    rw [target] at again
    refine ⟨_, List.mem_cons_self, ?_⟩
    rw [show u.toText = "http://[::1]/b" from Option.some.inj again]
    exact first
  · rw [short]
    exact ⟨"c".toList, by decide, by decide +kernel⟩

end SiteWalk.Profile

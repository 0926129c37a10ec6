/-!
# Crawls

What a crawl collects and what it remembers.  A node is an address that waits to
be visited, with the number of links that may still be followed from it.

    (v.insert u).1 = true ↔ u ∉ v.urls
-/

namespace SiteWalk.Crawl

/-! ## Nodes -/

/-- A content crawl collects the text of pages, a link crawl their addresses. -/
inductive Flavor where
  | content
  | links
  deriving DecidableEq, Repr, Inhabited

def Flavor.name : Flavor → String
  | .content => "content"
  | .links => "links"

def Flavor.ofName? (s : String) : Option Flavor :=
  [Flavor.content, .links].find? fun f => f.name == s

structure Node where
  url : String
  remaining : Nat
  deriving DecidableEq, Repr, Inhabited

/-- How far a node has come. -/
inductive Stage where
  | pending
  | fetching
  | extracted
  | fetchFailed
  | childrenScheduled
  | terminal
  | skipped
  deriving DecidableEq, Repr, Inhabited

namespace Stage

def all : List Stage :=
  [.pending, .fetching, .extracted, .fetchFailed, .childrenScheduled, .terminal, .skipped]

def name : Stage → String
  | .pending => "pending"
  | .fetching => "fetching"
  | .extracted => "extracted"
  | .fetchFailed => "fetch_failed"
  | .childrenScheduled => "children_scheduled"
  | .terminal => "terminal"
  | .skipped => "skipped"

def ofName? (s : String) : Option Stage := all.find? fun t => t.name == s

/-- Nothing more will be done with the node. -/
def isFinal : Stage → Bool
  | .pending => false
  | .fetching => false
  | .extracted => false
  | _ => true

/-- The stage is one that a node with a page reaches. -/
def hasPage : Stage → Bool
  | .extracted => true
  | .childrenScheduled => true
  | .terminal => true
  | _ => false

end Stage

/-! ## Progress -/

/-- The addresses that a run has claimed, each once. -/
structure Visited where
  urls : List String
  once : urls.Nodup
  deriving DecidableEq

namespace Visited

def empty : Visited := ⟨[], .nil⟩

instance : Inhabited Visited := ⟨empty⟩

def contains (v : Visited) (url : String) : Bool := v.urls.contains url

/-- Claims an address: whether it was free, and the set that holds it. -/
def insert (v : Visited) (url : String) : Bool × Visited :=
  if h : url ∈ v.urls then (false, v) else (true, ⟨url :: v.urls, List.nodup_cons.2 ⟨h, v.once⟩⟩)

def ofList (urls : List String) : Visited := urls.foldl (fun v u => (v.insert u).2) empty

def size (v : Visited) : Nat := v.urls.length

theorem insert_fst (v : Visited) (url : String) : (v.insert url).1 = true ↔ url ∉ v.urls := by
  unfold insert
  split <;> simp_all

end Visited

/-- What a run carries from one node to the next.  The counter, like those of a report, is
written as a number of 64 bits; what becomes of a full one is left out, so what is said of
counters is said of runs that make fewer than `bound64` requests. -/
structure Progress where
  visited : Visited := .empty
  fetchCount : Nat := 0
  deriving DecidableEq, Inhabited

/-- The time to wait before the next fetch, if any: the first one is not delayed. -/
def wait? (delay fetches : Nat) : Option Nat :=
  if fetches = 0 || delay = 0 then none else some delay

/-! ## Outcomes and reports -/

/-- What one page gives to a content crawl. -/
structure ContentUnit where
  source : String
  text : String
  deriving DecidableEq, Repr, Inhabited

/-- What visiting a node came to; `fetched` if its page was asked for. -/
structure Outcome where
  url : String
  stage : Stage
  fetched : Bool := false
  content : Option ContentUnit := none
  link : Option String := none
  children : List Node := []
  deriving DecidableEq, Repr, Inhabited

/-- What a run has collected.  Its counters are numbers of 64 bits when they are written, like
that of `Progress`. -/
structure Report where
  contents : List ContentUnit := []
  links : List String := []
  pagesFetched : Nat := 0
  fetchFailures : Nat := 0
  cancelled : Bool := false
  incomplete : Bool := false
  deriving DecidableEq, Repr, Inhabited

namespace Report

/-- The report with the outcome of one more node. -/
def record (r : Report) (o : Outcome) : Report :=
  { r with
    contents := r.contents ++ o.content.toList
    links := r.links ++ o.link.toList
    fetchFailures := if o.stage = .fetchFailed then r.fetchFailures + 1 else r.fetchFailures
    pagesFetched := if o.stage.hasPage && o.fetched then r.pagesFetched + 1 else r.pagesFetched }

def isEmpty (r : Report) : Bool := r.contents.isEmpty && r.links.isEmpty

end Report

end SiteWalk.Crawl

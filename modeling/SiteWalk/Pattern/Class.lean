import SiteWalk.Pattern.Lexis

/-!
# Sets in brackets

The members of a set stand between brackets: characters, ranges, named sets and
sets in brackets again.  `&&`, `--` and `~~` take what stands before them and
what follows, from left to right.
-/

namespace SiteWalk.Pattern

open Unicode Text

inductive SetOp where
  | inter
  | diff
  | symmDiff

def SetOp.apply : SetOp → Ranges → Ranges → Ranges
  | .inter => CharSet.inter
  | .diff => CharSet.diff
  | .symmDiff => CharSet.symmDiff

/-- What waits while a set is read: the members of a set around it, or the left side
of an operation. -/
inductive SetFrame where
  | opened (around : Ranges) (turned : Bool)
  | left (op : SetOp) (set : Ranges)

structure SetReader where
  rest : List Char
  set : Ranges
  frames : List SetFrame

/-- What reading one member comes to. -/
inductive SetStep where
  | next (r : SetReader)
  | done (set : Ranges) (rest : List Char)

namespace SetReader

/-- The dashes at the start of a set stand for themselves. -/
def leading (f : Flags) (read : Ranges) : List Char → Ranges × List Char
  | [] => (read, [])
  | c :: r =>
    if c == '-' then leading f ((45, 45) :: read) r
    else if f.verbose && isBlank c then leading f read r
    else (read, c :: r)

/-- Behind an opening bracket. -/
def opened? (f : Flags) (around : Ranges) (frames : List SetFrame) (s : List Char) :
    Option SetReader := do
  let s := f.skip s
  let (turned, s) := match s with
    | '^' :: r => (true, f.skip r)
    | _ => (false, s)
  let (read, s) := leading f [] s
  let s := f.skip s
  if s.isEmpty then none
  let (read, s) := match read, s with
    | [], ']' :: r => ([(93, 93)], f.skip r)
    | _, _ => (read, s)
  if s.isEmpty then none
  return { rest := s, set := read, frames := .opened around turned :: frames }

/-- The operation that waits on the left, done. -/
def close (f : Flags) (set : Ranges) : List SetFrame → Ranges × List SetFrame
  | .left op left :: frames =>
    let fold (s : Ranges) : Ranges :=
      if f.ignoreCase then if f.unicode then CharSet.fold s else CharSet.foldAscii s
      else CharSet.ofIntervals s
    (op.apply (fold left) (fold set), frames)
  | frames => (set, frames)

/-- Behind a closing bracket. -/
def closed? (f : Flags) (r : SetReader) (rest : List Char) : Option SetStep := do
  let (set, frames) := close f r.set r.frames
  match frames with
  | .opened around turned :: frames =>
    let set ← f.set? turned set
    if frames.isEmpty then some (.done set rest)
    else some (.next { rest := rest, set := set ++ around, frames := frames })
  | _ => none

/-- Behind the sign of an operation. -/
def operated (f : Flags) (r : SetReader) (op : SetOp) (rest : List Char) : SetReader :=
  let (set, frames) := close f r.set r.frames
  { rest := rest, set := [], frames := .left op set :: frames }

/-- A named class of ASCII characters, from behind its bracket and colon. -/
def named? (f : Flags) (s : List Char) : Option (Ranges × List Char) := do
  let (turned, s) := match s with
    | '^' :: r => (true, r)
    | _ => (false, s)
  let (name, rest) := cutBefore (· == ':') s
  match rest with
  | ':' :: ']' :: rest => return (← f.set? turned (← asciiClass? name), rest)
  | _ => none

/-- A character or named set that a set may hold. -/
def item? (f : Flags) (s : List Char) : Option (Sign × List Char) :=
  match s with
  | [] => none
  | '\\' :: r => f.escape? r
  | c :: r => some (.char c false, r)

/-- The member is a character, and one that the flags allow. -/
def point? (f : Flags) : Sign → Option Nat
  | .char c _ => if f.unicode || c.toNat < 128 then some c.toNat else none
  | _ => none

/-- The character behind the next one. -/
def peekBehind (f : Flags) (s : List Char) : Option Char := (f.skip (s.drop 1)).head?

/-- A member, or two with a dash between them. -/
def member? (f : Flags) (s : List Char) : Option (Ranges × List Char) := do
  let (first, r) ← item? f s
  let r := f.skip r
  match r with
  | [] => none
  | c :: behind =>
    let next := peekBehind f r
    if c != '-' || next == some ']' || next == some '-' then
      match first with
      | .set s => some (s, r)
      | .edge _ => none
      | .char .. => (point? f first).map fun n => ([(n, n)], r)
    else
      let (last, r) ← item? f (f.skip behind)
      let a ← point? f first
      let b ← point? f last
      if a ≤ b then some ([(a, b)], r) else none

/-- Reads one member, bracket or operation. -/
def step? (f : Flags) (r : SetReader) : Option SetStep :=
  match f.skip r.rest with
  | [] => none
  | '[' :: s =>
    let named := match s with
      | ':' :: t => named? f t
      | _ => none
    match named with
    | some (set, rest) => some (.next { r with rest := rest, set := set ++ r.set })
    | none => (opened? f r.set r.frames s).map .next
  | ']' :: s => closed? f r s
  | '&' :: '&' :: s => some (.next (operated f r .inter s))
  | '-' :: '-' :: s => some (.next (operated f r .diff s))
  | '~' :: '~' :: s => some (.next (operated f r .symmDiff s))
  | s => (member? f s).map fun (set, rest) => .next { r with rest := rest, set := set ++ r.set }

/-- Reads to the bracket that closes the set, in at most `fuel` steps. -/
def run? (f : Flags) : Nat → SetReader → Option (Ranges × List Char)
  | 0, _ => none
  | fuel + 1, r =>
    match step? f r with
    | none => none
    | some (.done set rest) => some (set, rest)
    | some (.next r) => run? f fuel r

end SetReader

/-- A set from behind its opening bracket.  Each step takes a character. -/
def bracketSet? (f : Flags) (s : List Char) : Option (Ranges × List Char) := do
  (SetReader.opened? f [] [] s).bind (SetReader.run? f (s.length + 1))

end SiteWalk.Pattern

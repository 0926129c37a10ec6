import SiteWalk.Url.Domain
import SiteWalk.Url.Percent

/-!
# Hosts

The host of an address is a name or a number.  Hosts of the special schemes are
read by the rules of the network: names in their ASCII form, IPv4 addresses in
any of their spellings.  Hosts of other schemes are kept as text.
-/

namespace SiteWalk.Url

open Text

/-- Why a text is no address. -/
inductive ParseError where
  | relativeWithoutBase
  | relativeToRootless
  | emptyHost
  | invalidPort
  | invalidIpv4
  | invalidIpv6
  | invalidName
  | invalidHostChar
  deriving DecidableEq, Repr, Inhabited

def ParseError.message : ParseError → String
  | .relativeWithoutBase => "relative URL without a base"
  | .relativeToRootless => "relative URL with a cannot-be-a-base base"
  | .emptyHost => "empty host"
  | .invalidPort => "invalid port number"
  | .invalidIpv4 => "invalid IPv4 address"
  | .invalidIpv6 => "invalid IPv6 address"
  | .invalidName => "invalid international domain name"
  | .invalidHostChar => "invalid domain character"

/-- `ipv6` holds eight groups of 16 bits. -/
inductive Host where
  | name (text : List Char)
  | ipv4 (address : Nat)
  | ipv6 (groups : List Nat)
  deriving DecidableEq, Repr, Inhabited

namespace Host

/-! ## IPv4 -/

/-- A part of an IPv4 address: hexadecimal behind `0x`, octal behind `0`. -/
def ipv4Part? (s : List Char) : Option Nat :=
  let read (base : Nat) (digits : List Char) : Option Nat :=
    (digits.mapM fun c => (hexValue? c).filter (· < base)).map (ofDigits base)
  match s with
  | [] => none
  | '0' :: 'x' :: r => read 16 r
  | '0' :: 'X' :: r => read 16 r
  | '0' :: c :: r => read 8 (c :: r)
  | _ => read 10 s

/-- The labels of a name, without an empty one at the end. -/
def labels (s : List Char) : List (List Char) :=
  let ls := pieces (· == '.') s
  if ls.getLast? == some [] then ls.dropLast else ls

/-- A name whose last label is a number has to be an IPv4 address. -/
def endsInNumber (s : List Char) : Bool :=
  match (labels s).getLast? with
  | none => false
  | some l => (!l.isEmpty && l.all isDigit) || (ipv4Part? l).isSome

/-- Up to four parts; the last one fills the bytes that are left. -/
def ipv4? (s : List Char) : Option Nat := do
  let parts ← (labels s).mapM ipv4Part?
  let last ← parts.getLast?
  let front := parts.dropLast
  if front.length > 3 || front.any (· > 255) || last ≥ Nat.pow 256 (4 - front.length) then none
  else return ofDigits 256 front * Nat.pow 256 (4 - front.length) + last

def ipv4Text (n : Nat) : List Char :=
  join ['.'] ([n / 16777216, n / 65536 % 256, n / 256 % 256, n % 256].map decimal)

/-! ## IPv6 -/

def group? (s : List Char) : Option Nat :=
  if s.isEmpty || s.length > 4 then none
  else (s.mapM hexValue?).map (ofDigits 16)

/-- Four numbers up to 255 without leading zeros, as two groups. -/
def dotted? (s : List Char) : Option (List Nat) := do
  let number (p : List Char) : Option Nat := do
    let n ← decimal? p
    if n ≤ 255 && p.length == (decimal n).length then some n else none
  match ← (pieces (· == '.') s).mapM number with
  | [a, b, c, d] => some [256 * a + b, 256 * c + d]
  | _ => none

/-- Groups with a colon between neighbours; the last may be dotted if `mayDot`. -/
def groups? (mayDot : Bool) (s : List Char) : Option (List Nat) :=
  if s.isEmpty then some []
  else
    let ps := pieces (· == ':') s
    let last := ps.getLast?.getD []
    if mayDot && last.contains '.' then do
      let front ← ps.dropLast.mapM group?
      let back ← dotted? last
      return front ++ back
    else ps.mapM group?

/-- Cuts at the first `::`. -/
def cutGap : List Char → Option (List Char × List Char)
  | ':' :: ':' :: r => some ([], r)
  | c :: r => (cutGap r).map fun (front, back) => (c :: front, back)
  | [] => none

/-- Eight groups, where `::` stands for at least one group of zeros. -/
def ipv6? (s : List Char) : Option (List Nat) := do
  match cutGap s with
  | none =>
    let gs ← groups? true s
    if gs.length == 8 then some gs else none
  | some (front, back) =>
    let a ← groups? false front
    let b ← groups? true back
    if a.length + b.length ≤ 7 then
      some (a ++ List.replicate (8 - a.length - b.length) 0 ++ b)
    else none

/-- The length of the run of zeros at the front. -/
def zeros (gs : List Nat) : Nat := (gs.takeWhile (· == 0)).length

/-- The first of the longest runs of two zeros or more: where it starts and its length. -/
def longestGap (gs : List Nat) : Option (Nat × Nat) :=
  (List.range gs.length).foldl
    (fun best i =>
      let n := zeros (gs.drop i)
      if n > (best.map Prod.snd).getD 1 then some (i, n) else best)
    none

def groupText (n : Nat) : List Char := (toDigits 16 n).map hexDigit

def ipv6Text (gs : List Nat) : List Char :=
  let written (gs : List Nat) : List Char := join [':'] (gs.map groupText)
  match longestGap gs with
  | none => written gs
  | some (i, n) => written (gs.take i) ++ ':' :: ':' :: written (gs.drop (i + n))

/-! ## Hosts -/

def text : Host → List Char
  | .name s => s
  | .ipv4 n => ipv4Text n
  | .ipv6 gs => '[' :: ipv6Text gs ++ [']']

/-- A host in brackets. -/
def bracketed (s : List Char) : Except ParseError Host :=
  if s.getLast? == some ']' then
    match ipv6? s.dropLast with
    | some gs => .ok (.ipv6 gs)
    | none => .error .invalidIpv6
  else .error .invalidIpv6

/-- A host of a special scheme. -/
def ofNetwork (s : List Char) : Except ParseError Host :=
  match s with
  | '[' :: r => bracketed r
  | _ =>
    match (ofBytes? (Percent.decode s)).bind Domain.toAscii? with
    | none => .error .invalidName
    | some [] => .error .emptyHost
    | some n =>
      if endsInNumber n then
        match ipv4? n with
        | some a => .ok (.ipv4 a)
        | none => .error .invalidIpv4
      else .ok (.name n)

/-- A character that the host of no scheme may hold. -/
def isForbidden (c : Char) : Bool := "\x00\t\n\r #/:<>?@[\\]^|".toList.contains c

/-- A host of any other scheme. -/
def ofText (s : List Char) : Except ParseError Host :=
  match s with
  | '[' :: r => bracketed r
  | _ =>
    if s.any isForbidden then .error .invalidHostChar
    else .ok (.name (Percent.encode Percent.isControl s))

end Host

end SiteWalk.Url

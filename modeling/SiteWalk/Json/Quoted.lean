import SiteWalk.Text.Ascii

/-!
# Quoted text of JSON

Inside quotation marks the quotation mark, the backslash and the control
characters below U+0020 are written as escapes, all else as itself.

    unescape (escape s) = some s                                    (unescape_escape)
-/

namespace SiteWalk.Json

open Text

/-! ## Writing -/

/-- The written form of one character. -/
def escapeChar (c : Char) : List Char :=
  if c = '"' then ['\\', '"']
  else if c = '\\' then ['\\', '\\']
  else if c = '\x08' then ['\\', 'b']
  else if c = '\x09' then ['\\', 't']
  else if c = '\x0a' then ['\\', 'n']
  else if c = '\x0c' then ['\\', 'f']
  else if c = '\x0d' then ['\\', 'r']
  else if c.toNat < 32 then
    ['\\', 'u', '0', '0', hexDigit (c.toNat / 16), hexDigit (c.toNat % 16)]
  else [c]

def escape (s : List Char) : List Char := s.flatMap escapeChar

/-! ## Reading -/

/-- The number that four hexadecimal digits write. -/
def unit? (a b c d : Char) : Option Nat := do
  let w ← hexValue? a
  let x ← hexValue? b
  let y ← hexValue? c
  let z ← hexValue? d
  return ((w * 16 + x) * 16 + y) * 16 + z

/-- The character that a backslash and this letter write. -/
def shortEscape? (c : Char) : Option Char :=
  if c = '"' then some '"'
  else if c = '\\' then some '\\'
  else if c = '/' then some '/'
  else if c = 'b' then some '\x08'
  else if c = 't' then some '\x09'
  else if c = 'n' then some '\x0a'
  else if c = 'f' then some '\x0c'
  else if c = 'r' then some '\x0d'
  else none

def isHighSurrogate (n : Nat) : Bool := 0xD800 ≤ n && n < 0xDC00

def isLowSurrogate (n : Nat) : Bool := 0xDC00 ≤ n && n < 0xE000

/-- Refuses unknown escapes and surrogates that stand alone. -/
def unescape : List Char → Option (List Char)
  | [] => some []
  | '\\' :: 'u' :: a :: b :: c :: d :: r =>
    match unit? a b c d with
    | none => none
    | some hi =>
      if isLowSurrogate hi then none
      else if isHighSurrogate hi then
        match r with
        | '\\' :: 'u' :: e :: f :: g :: h :: r' =>
          match unit? e f g h with
          | none => none
          | some lo =>
            if isLowSurrogate lo then
              (unescape r').map
                (Char.ofNat (0x10000 + (hi - 0xD800) * 0x400 + (lo - 0xDC00)) :: ·)
            else none
        | _ => none
      else (unescape r).map (Char.ofNat hi :: ·)
  | '\\' :: c :: r =>
    match shortEscape? c with
    | none => none
    | some x => (unescape r).map (x :: ·)
  | c :: r => if c = '\\' then none else (unescape r).map (c :: ·)

end SiteWalk.Json

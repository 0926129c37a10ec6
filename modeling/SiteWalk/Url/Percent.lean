import SiteWalk.Text.Ascii
import SiteWalk.Text.Utf8

/-!
# Percent encoding

A byte written as `%` and two hexadecimal digits.  Each part of an address has
its own set of ASCII characters that are written so; characters outside ASCII
are always written so, byte by byte.
-/

namespace SiteWalk.Url.Percent

open Text

/-! ## Sets of characters -/

def isControl (c : Char) : Bool := c.toNat < 32 || c.toNat == 127

def inFragment (c : Char) : Bool := isControl c || " \"<>`".toList.contains c

def inPath (c : Char) : Bool := inFragment c || "#?\x7b\x7d".toList.contains c

def inUser (c : Char) : Bool := inPath c || "/:;=@[\\]^|".toList.contains c

/-- The set of queries; those of the special schemes also write the apostrophe so. -/
def inQuery (special : Bool) (c : Char) : Bool :=
  isControl c || " \"#<>".toList.contains c || (special && c == '\'')

/-! ## Writing and reading -/

def encodeByte (b : UInt8) : List Char :=
  ['%', hexDigitUpper (b.toNat / 16), hexDigitUpper (b.toNat % 16)]

/-- `s` with the characters in the set, and those outside ASCII, written in bytes. -/
def encode (set : Char → Bool) (s : List Char) : List Char :=
  s.flatMap fun c =>
    if c.toNat ≥ 128 || set c then (String.utf8EncodeChar c).flatMap encodeByte else [c]

/-- The bytes of a text, those written with `%` as what they say. -/
def decode : List Char → List UInt8
  | [] => []
  | '%' :: a :: b :: r =>
    match hexValue? a, hexValue? b with
    | some x, some y => UInt8.ofNat (16 * x + y) :: decode r
    | _, _ => 37 :: decode (a :: b :: r)
  | c :: r => String.utf8EncodeChar c ++ decode r

end SiteWalk.Url.Percent

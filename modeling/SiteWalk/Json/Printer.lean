import SiteWalk.Datum
import SiteWalk.Json.Quoted

/-!
# Writing JSON

The compact form has no blank between tokens.  The laid out form has one item
or field a line, two blanks deeper than the line that opens it, and writes an
empty list or record in two characters.
-/

namespace SiteWalk.Json

open Text

def quoted (s : String) : List Char := '"' :: escape s.toList ++ ['"']

def integer (n : Int) : List Char :=
  match n with
  | .ofNat k => decimal k
  | .negSucc k => '-' :: decimal (k + 1)

/-- A value without parts. -/
def scalar : Datum → List Char
  | .bool true => "true".toList
  | .bool false => "false".toList
  | .int n => integer n
  | .decimal s => s.toList
  | .text s => quoted s
  | _ => "null".toList

/-! ## Compact form -/

mutual

def compact : Datum → List Char
  | .list xs => '[' :: compactItems xs ++ [']']
  | .record fs => '\x7b' :: compactFields fs ++ ['\x7d']
  | d => scalar d

def compactItems : List Datum → List Char
  | [] => []
  | [x] => compact x
  | x :: y :: r => compact x ++ ',' :: compactItems (y :: r)

def compactFields : List (String × Datum) → List Char
  | [] => []
  | [(k, x)] => quoted k ++ ':' :: compact x
  | (k, x) :: f :: r => quoted k ++ ':' :: compact x ++ ',' :: compactFields (f :: r)

end

/-! ## Laid out form -/

/-- A line end and the blanks of a line at this depth. -/
def newLine (depth : Nat) : List Char := '\n' :: List.replicate (2 * depth) ' '

mutual

def laidOut (depth : Nat) : Datum → List Char
  | .list [] => ['[', ']']
  | .list (x :: xs) => '[' :: laidOutItems (depth + 1) (x :: xs) ++ newLine depth ++ [']']
  | .record [] => ['\x7b', '\x7d']
  | .record (f :: fs) =>
    '\x7b' :: laidOutFields (depth + 1) (f :: fs) ++ newLine depth ++ ['\x7d']
  | d => scalar d

def laidOutItems (depth : Nat) : List Datum → List Char
  | [] => []
  | [x] => newLine depth ++ laidOut depth x
  | x :: y :: r => newLine depth ++ laidOut depth x ++ ',' :: laidOutItems depth (y :: r)

def laidOutFields (depth : Nat) : List (String × Datum) → List Char
  | [] => []
  | [(k, x)] => newLine depth ++ quoted k ++ [':', ' '] ++ laidOut depth x
  | (k, x) :: f :: r =>
    newLine depth ++ quoted k ++ [':', ' '] ++ laidOut depth x ++
      ',' :: laidOutFields depth (f :: r)

end

end SiteWalk.Json

/-!
# Bounds of numbers

Numbers of 32 and of 64 bits, as they are written in profiles, stores and on the
command line.
-/

namespace SiteWalk

/-- A number of 32 bits without sign is below this. -/
def bound32 : Nat := 4294967296

/-- A number of 64 bits without sign is below this. -/
def bound64 : Nat := 18446744073709551616

/-- A number of 64 bits with sign. -/
def isSigned64 (n : Int) : Bool := -9223372036854775808 ≤ n && n < 9223372036854775808

end SiteWalk

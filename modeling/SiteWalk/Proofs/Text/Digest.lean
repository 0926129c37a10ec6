import SiteWalk.Text.Sha256

/-!
# Digests

A digest is written byte by byte and a text has one form in bytes, so different texts have the
same digest only if their bytes collide.

    hex s = hex t ↔ s = t ∨ Collide (bytes s) (bytes t)                       (hex_eq_iff)
-/

namespace SiteWalk.Text

theorem hexByte?_hexDigit : ∀ n < 256,
    hexByte? (hexDigit (n / 16)) (hexDigit (n % 16)) = some (UInt8.ofNat n) := by
  decide +kernel

namespace Sha256

/-! ## Hexadecimal -/

/-- A byte in hexadecimal. -/
def byteDigits (b : UInt8) : List Char := [hexDigit (b.toNat / 16), hexDigit (b.toNat % 16)]

theorem byteDigits_inj {b c : UInt8} (same : byteDigits b = byteDigits c) : b = c := by
  have read (b : UInt8) := hexByte?_hexDigit b.toNat b.toNat_lt
  obtain ⟨high, low⟩ := List.cons.inj same
  have h := read b
  rw [high, (List.cons.inj low).1, read c] at h
  simpa using h.symm

theorem flatMap_byteDigits_inj {bs cs : List UInt8}
    (same : bs.flatMap byteDigits = cs.flatMap byteDigits) : bs = cs := by
  induction bs generalizing cs with
  | nil =>
    cases cs with
    | nil => rfl
    | cons c cs => cases same
  | cons b bs ih =>
    cases cs with
    | nil => cases same
    | cons c cs =>
      have parts : byteDigits b ++ bs.flatMap byteDigits =
        byteDigits c ++ cs.flatMap byteDigits := same
      obtain ⟨first, rest⟩ := List.append_inj parts rfl
      rw [byteDigits_inj first, ih rest]

/-! ## Collisions -/

/-- The digest of a message. -/
def sum (message : List UInt8) : List UInt8 :=
  ((blocks (pad message)).foldl mixBlock start).words.flatMap fun w => bigEndian 4 w.toNat

/-- Two messages that differ have the same digest. -/
def Collide (m n : List UInt8) : Prop := m ≠ n ∧ sum m = sum n

theorem hex_eq (text : List Char) :
    hex text = String.ofList ((sum (bytes text)).flatMap byteDigits) := rfl

/-- **Two texts have the same digest if they are one text or their bytes collide.** -/
theorem hex_eq_iff {s t : List Char} : hex s = hex t ↔ s = t ∨ Collide (bytes s) (bytes t) := by
  constructor
  · intro same
    rw [hex_eq, hex_eq] at same
    have sums := flatMap_byteDigits_inj (String.ofList_injective same)
    by_cases equal : s = t
    · exact .inl equal
    · exact .inr ⟨fun same => equal (bytes_inj.1 same), sums⟩
  · rintro (rfl | ⟨-, sums⟩)
    · rfl
    · rw [hex_eq, hex_eq, sums]

end Sha256

end SiteWalk.Text

import SiteWalk.Text.Ascii

/-!
# UTF-8

Texts as bytes.  Reading refuses bytes that are not the UTF-8 form of a text.

    bytes s = bytes t ↔ s = t                                                 (bytes_inj)
    ofBytes? (bytes s) = some s                                          (ofBytes?_bytes)
-/

namespace SiteWalk.Text

/-- The bytes of a text. -/
def bytes (s : List Char) : List UInt8 := s.flatMap String.utf8EncodeChar

section Bytes

variable {c : Char}

/-- The byte of an ASCII character is its number. -/
theorem utf8EncodeChar_of_lt (ascii : c.toNat < 128) :
    String.utf8EncodeChar c = [UInt8.ofNat c.toNat] := by
  unfold String.utf8EncodeChar
  exact if_pos (Nat.le_of_lt_succ ascii)

/-- The bytes of any other character are no ASCII. -/
theorem le_of_mem_utf8EncodeChar (other : 128 ≤ c.toNat) {b : UInt8}
    (h : b ∈ String.utf8EncodeChar c) : 128 ≤ b.toNat := by
  have long : ¬ c.val.toNat ≤ 127 := Nat.not_le.2 other
  have high {n : Nat} (low : 128 ≤ n) (small : n < 256) : 128 ≤ (UInt8.ofNat n).toNat := by
    rw [UInt8.toNat_ofNat', Nat.mod_eq_of_lt small]
    exact low
  unfold String.utf8EncodeChar at h
  dsimp only at h
  rw [if_neg long] at h
  split at h
  · simp only [List.mem_cons, List.not_mem_nil, or_false] at h
    rcases h with rfl | rfl <;> exact high (by omega) (by omega)
  · split at h
    · simp only [List.mem_cons, List.not_mem_nil, or_false] at h
      rcases h with rfl | rfl | rfl <;> exact high (by omega) (by omega)
    · simp only [List.mem_cons, List.not_mem_nil, or_false] at h
      rcases h with rfl | rfl | rfl | rfl <;> exact high (by omega) (by omega)

end Bytes

theorem bytes_inj {s t : List Char} : bytes s = bytes t ↔ s = t := by
  constructor
  · intro same
    have encoded : s.utf8Encode = t.utf8Encode := congrArg List.toByteArray same
    apply String.ofList_injective
    rwa [← String.toByteArray_inj, String.toByteArray_ofList, String.toByteArray_ofList]
  · rintro rfl
    rfl

/-- The text of these bytes. -/
def ofBytes? (bs : List UInt8) : Option (List Char) :=
  (String.fromUTF8? ⟨bs.toArray⟩).map String.toList

theorem ofBytes?_bytes (s : List Char) : ofBytes? (bytes s) = some s := by
  have same : (⟨(bytes s).toArray⟩ : ByteArray) = (String.ofList s).toByteArray := by
    rw [String.toByteArray_ofList]
    exact ByteArray.ext List.data_toByteArray.symm
  unfold ofBytes? String.fromUTF8?
  rw [same, dif_pos (String.ofList s).isValidUTF8]
  show some (String.ofList s).toList = some s
  rw [String.toList_ofList]

/-- The byte that two hexadecimal digits write. -/
def hexByte? (a b : Char) : Option UInt8 := do
  return UInt8.ofNat (16 * (← hexValue? a) + (← hexValue? b))

end SiteWalk.Text

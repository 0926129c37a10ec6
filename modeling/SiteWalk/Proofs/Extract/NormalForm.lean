import SiteWalk.Extract.RawDump
import SiteWalk.Proofs.Text.LineEnd

/-!
# The normal form of a page

A text is in normal form if it has no carriage return, no U+0000 and no byte order mark at its
start.  A raw dump is, but for the mark: one mark is taken off before U+0000 is, so the dump
begins with a mark where a second one comes behind the first or behind U+0000 alone.  Such a mark
is all that dumping again changes.

    rawDump s = s ↔ Normal s                                              (rawDump_eq_self_iff)
    rawDump (rawDump s) = dropMark (rawDump s)                                (rawDump_rawDump)
-/

namespace SiteWalk.Extract

open Text

/-- No carriage return, no U+0000, and no byte order mark at the start. -/
structure Normal (s : List Char) : Prop where
  noReturn : '\r' ∉ s
  noNull : '\x00' ∉ s
  noMark : s.head? ≠ some mark

variable {s : List Char}

theorem noReturn_rawDump (s : List Char) : '\r' ∉ rawDump s := fun h =>
  not_mem_unifyLineEnds _ (List.mem_filter.1 h).1

theorem noNull_rawDump (s : List Char) : '\x00' ∉ rawDump s := fun h => by
  simpa using (List.mem_filter.1 h).2

/-- The dump begins with a mark where only U+0000 stands before one, once a mark is taken off. -/
theorem head_rawDump :
    (rawDump s).head? = some mark ↔ (dropMark s).find? (· != '\x00') = some mark := by
  unfold rawDump
  rw [List.head?_filter]
  exact find?_unifyLineEnds (by decide) (by decide) (by decide)

theorem filter_null_of_not_mem (h : '\x00' ∉ s) : s.filter (· != '\x00') = s := by
  rw [List.filter_eq_self]
  rintro c hc
  rw [bne_iff_ne]
  rintro rfl
  exact h hc

/-- Of a text without returns and U+0000 the dump takes a mark. -/
theorem rawDump_of_clean (noReturn : '\r' ∉ s) (noNull : '\x00' ∉ s) :
    rawDump s = dropMark s := by
  have noReturn : '\r' ∉ dropMark s := fun h => noReturn (dropMark_subset s h)
  have noNull : '\x00' ∉ dropMark s := fun h => noNull (dropMark_subset s h)
  unfold rawDump
  rw [unifyLineEnds_of_not_mem noReturn, filter_null_of_not_mem noNull]

theorem rawDump_rawDump (s : List Char) : rawDump (rawDump s) = dropMark (rawDump s) :=
  rawDump_of_clean (noReturn_rawDump s) (noNull_rawDump s)

/-- The texts that the dump leaves alone are those in normal form. -/
theorem rawDump_eq_self_iff : rawDump s = s ↔ Normal s := by
  constructor
  · intro same
    have noReturn : '\r' ∉ s := same ▸ noReturn_rawDump s
    have noNull : '\x00' ∉ s := same ▸ noNull_rawDump s
    refine ⟨noReturn, noNull, dropMark_eq_self_iff.1 ?_⟩
    rw [← rawDump_of_clean noReturn noNull, same]
  · intro normal
    rw [rawDump_of_clean normal.noReturn normal.noNull, dropMark_eq_self_iff.2 normal.noMark]

/-- **A raw dump is in normal form unless a mark is uncovered.**  It has no carriage return and no
U+0000.  It begins with a mark exactly if the text, once a mark is taken off, has one that at most
U+0000 stands before; otherwise dumping it again changes nothing, and in any case that takes no
more than this mark. -/
theorem normal_or_uncovered (s : List Char) :
    ('\r' ∉ rawDump s ∧ '\x00' ∉ rawDump s) ∧
    (Normal (rawDump s) ↔ (dropMark s).find? (· != '\x00') ≠ some mark) ∧
    (rawDump (rawDump s) = rawDump s ↔ Normal (rawDump s)) ∧
    rawDump (rawDump s) = dropMark (rawDump s) := by
  refine ⟨⟨noReturn_rawDump s, noNull_rawDump s⟩, ?_, rawDump_eq_self_iff, rawDump_rawDump s⟩
  constructor
  · intro normal uncovered
    exact normal.noMark (head_rawDump.2 uncovered)
  · intro covered
    exact ⟨noReturn_rawDump s, noNull_rawDump s, fun first => covered (head_rawDump.1 first)⟩

/-- U+0000 is taken out from before a mark, which then is the start of the dump. -/
theorem uncovered_mark :
    ¬ ∀ s : List Char, Normal (rawDump s) ∧ rawDump (rawDump s) = rawDump s := by
  intro all
  have normal := (all ['\x00', mark, 'x']).1
  exact normal.noMark (by decide)

end SiteWalk.Extract

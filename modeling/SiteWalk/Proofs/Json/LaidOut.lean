import SiteWalk.Proofs.Json.Written

/-!
# The laid out form is read

Line ends and blanks between tokens spell nothing, so the laid out text of a value is a text of
the same value as the compact one, at every depth.

    Whole d → Written (laidOut depth d) (asRead d)                        (written_laidOut)
    Plain d → read? (laidOut depth d) = some d                              (read?_laidOut)
-/

namespace SiteWalk.Json

open Text

variable {s : List Char} {ts : List Token} {d : Datum}

/-! ## Blanks between tokens -/

theorem Spells.behind_newLine (h : Spells s ts) (depth : Nat) : Spells (newLine depth ++ s) ts := by
  have blanks : ∀ n, Spells (List.replicate n ' ' ++ s) ts := by
    intro n
    induction n with
    | zero => exact h
    | succ n ih => exact ih.cons (c := ' ') rfl
  exact (blanks (2 * depth)).cons (c := '\n') rfl

theorem Written.behind_newLine (h : Written s d) (depth : Nat) :
    Written (newLine depth ++ s) d := by
  obtain ⟨ts, spells, means⟩ := h
  exact ⟨ts, spells.behind_newLine depth, means⟩

theorem over_newLine (depth : Nat) (s rest : List Char) : Over (newLine depth ++ s ++ rest) :=
  over_cons (by decide) (by decide) _

/-- A field on a line of its own. -/
theorem writtenField_line (depth : Nat) (name : String) (h : Written s d) :
    WrittenField (newLine depth ++ quoted name ++ [':', ' '] ++ s) (name, d) := by
  obtain ⟨ts, spells, means⟩ := h
  have value : Spells (':' :: ' ' :: s) (.colon :: ts) :=
    (spells.cons (c := ' ') rfl).cons (c := ':') rfl
  have field := ((spells_quoted name).append
    (fun rest _ => over_cons (by decide) (by decide) _) value).behind_newLine depth
  refine ⟨ts, ?_, means⟩
  simpa using field

/-! ## Lists and records -/

theorem laidOutItems_eq (depth : Nat) (xs : List Datum) :
    laidOutItems depth xs = join [','] (xs.map fun x => newLine depth ++ laidOut depth x) :=
  eq_join rfl (fun _ => rfl) (fun _ _ _ => rfl) xs

theorem laidOutFields_eq (depth : Nat) (fs : List (String × Datum)) :
    laidOutFields depth fs = join [','] (fs.map fun f =>
      newLine depth ++ quoted f.1 ++ [':', ' '] ++ laidOut depth f.2) :=
  eq_join rfl (fun _ => rfl) (fun _ _ _ => rfl) fs

/-! ## Values -/

theorem written_laidOut (h : Whole d) (depth : Nat) : Written (laidOut depth d) (asRead d) := by
  induction h generalizing depth with
  | null =>
    rw [asRead]
    exact written_null
  | bool b =>
    rw [asRead]
    exact written_bool b
  | int n =>
    rw [asRead]
    exact written_int n
  | text s =>
    rw [asRead]
    exact written_text s
  | @list xs items ih =>
    rw [asRead]
    -- An empty list or record has no line of its own for its end.
    cases xs with
    | nil =>
      show Written ('[' :: join [','] [] ++ [']']) (.list [])
      exact written_list (fun rest => over_cons (by decide) (by decide) rest) spells_closeList .nil
    | cons x xs =>
      have each : List.Forall₂ Written
          ((x :: xs).map fun x => newLine (depth + 1) ++ laidOut (depth + 1) x)
          ((x :: xs).map asRead) := by
        rw [List.forall₂_map_left_iff, List.forall₂_map_right_iff, List.forall₂_same]
        intro y hy
        exact (ih y hy (depth + 1)).behind_newLine (depth + 1)
      have close : Spells (newLine depth ++ [']']) [.closeList] :=
        spells_closeList.behind_newLine depth
      unfold laidOut
      rw [laidOutItems_eq, List.append_assoc]
      exact written_list (over_newLine depth _) close each
  | @record fs fields ih =>
    rw [asRead]
    cases fs with
    | nil =>
      show Written ('\x7b' :: join [','] [] ++ ['\x7d']) (.record [])
      exact written_record (fun rest => over_cons (by decide) (by decide) rest)
        spells_closeRecord .nil
    | cons f fs =>
      have each : List.Forall₂ WrittenField
          ((f :: fs).map fun f =>
            newLine (depth + 1) ++ quoted f.1 ++ [':', ' '] ++ laidOut (depth + 1) f.2)
          ((f :: fs).map fun f => (f.1, asRead f.2)) := by
        rw [List.forall₂_map_left_iff, List.forall₂_map_right_iff, List.forall₂_same]
        intro g hg
        exact writtenField_line (depth + 1) g.1 (ih g hg (depth + 1))
      have close : Spells (newLine depth ++ ['\x7d']) [.closeRecord] :=
        spells_closeRecord.behind_newLine depth
      unfold laidOut
      rw [laidOutFields_eq, List.append_assoc]
      exact written_record (over_newLine depth _) close each

/-- **The laid out text of a value reads back as the value**, however deep it is laid out. -/
theorem read?_laidOut (h : Plain d) (depth : Nat) : read? (laidOut depth d) = some d := by
  have read := read?_of_written (written_laidOut (whole_of_plain h) depth)
  rwa [asRead_of_plain h] at read

end SiteWalk.Json

import Mathlib.Data.List.Forall2
import SiteWalk.Json.Reader
import SiteWalk.Proofs.Json.Lexed
import SiteWalk.Text.Blank

/-!
# What is written is read

The text of a value reads back as this value.  Tokens that mean a value are read as it within
any open lists and records (`Means`), so the texts of values can be put together
(`Written`).  An integer of more than 64 bits is read as what is written of it (`asRead`), so
different values have different texts.

    Written s d → read? s = some d                                     (read?_of_written)
    Plain d → read? (compact d) = some d                                   (read?_compact)
    Whole d → Whole e → compact d = compact e → d = e                        (compact_inj)
-/

namespace SiteWalk.Json

open Text

/-- The tokens are read as the value, within any open lists and records. -/
def Means (ts : List Token) (d : Datum) : Prop :=
  ∀ outer, ts.foldlM step (.value outer) = some (.after d outer)

/-- A text of the value. -/
def Written (s : List Char) (d : Datum) : Prop := ∃ ts, Spells s ts ∧ Means ts d

/-- A text of the field of a record. -/
def WrittenField (s : List Char) (f : String × Datum) : Prop :=
  ∃ ts, Spells s (.text f.1 :: .colon :: ts) ∧ Means ts f.2

theorem read?_of_written {s : List Char} {d : Datum} (h : Written s d) : read? s = some d := by
  obtain ⟨ts, spells, means⟩ := h
  have lexed := spells [] over_nil
  rw [List.append_nil] at lexed
  unfold read? tokens? ofTokens?
  rw [lexed]
  show ofTokens? (ts ++ []) = some d
  unfold ofTokens?
  rw [List.append_nil, means []]

/-! ## Values without parts -/

theorem means_scalar {t : Token} {d : Datum} (h : scalar? t = some d) : Means [t] d := by
  intro outer
  have begun : beginValue outer t = some (.after d outer) := by
    cases t with
    | openList | openRecord => cases h
    | _ => simp [beginValue, h]
  simpa [step] using begun

theorem written_null : Written "null".toList .null :=
  ⟨[.null], runs_word.spells rfl (List.all_eq_true.1 rfl) rfl, means_scalar rfl⟩

theorem written_bool (b : Bool) : Written (scalar (.bool b)) (.bool b) := by
  cases b with
  | true => exact ⟨[.bool true], runs_word.spells rfl (List.all_eq_true.1 rfl) rfl, means_scalar rfl⟩
  | false => exact ⟨[.bool false], runs_word.spells rfl (List.all_eq_true.1 rfl) rfl, means_scalar rfl⟩

/-- The number that is read of the text of an integer. -/
def number (n : Int) : Datum :=
  if Datum.isWord n then .int n else .decimal (String.ofList (integer n))

theorem number_inj {m n : Int} (h : number m = number n) : m = n := by
  unfold number at h
  split at h <;> split at h
  · exact Datum.int.inj h
  · cases h
  · cases h
  · exact integer_inj (String.ofList_injective (Datum.decimal.inj h))

theorem written_int (n : Int) : Written (integer n) (number n) := by
  refine ⟨[numeral n], spells_integer n, means_scalar ?_⟩
  unfold numeral number
  split <;> rfl

theorem written_text (s : String) : Written (quoted s) (.text s) :=
  ⟨[.text s], spells_quoted s, means_scalar rfl⟩

/-! ## Lists -/

theorem over_comma (rest : List Char) : Over (',' :: rest) := over_cons (by decide) (by decide) rest

theorem spells_closeList : Spells [']'] [.closeList] := spells_nil.cons (c := ']') rfl

/-- The items of a list, up to its end. -/
theorem written_items {t close : List Char} {x : Datum} {texts : List (List Char)}
    {xs : List Datum} (stops : ∀ rest, Over (close ++ rest)) (closed : Spells close [.closeList])
    (h : Written t x) (hs : List.Forall₂ Written texts xs) :
    ∃ ts, Spells (join [','] (t :: texts) ++ close) ts ∧
      ∀ done outer, ts.foldlM step (.value (.list done :: outer)) =
        some (.after (.list (done.reverse ++ x :: xs)) outer) := by
  induction hs generalizing t x with
  | nil =>
    obtain ⟨ts, spells, means⟩ := h
    refine ⟨ts ++ [.closeList], spells.append (fun rest _ => stops rest) closed, ?_⟩
    intro done outer
    rw [List.foldlM_append, means]
    simp [step]
  | cons h' hs ih =>
    obtain ⟨ts, spells, means⟩ := h
    obtain ⟨us, spells', rest⟩ := ih h'
    refine ⟨ts ++ .comma :: us, ?_, ?_⟩
    · have comma := spells'.cons (c := ',') rfl
      have both := spells.append (fun rest _ => over_comma _) comma
      simpa [join] using both
    · intro done outer
      rw [List.foldlM_append, means]
      show us.foldlM step (.value (.list (x :: done) :: outer)) = _
      rw [rest]
      simp

/-- Where an empty list would end, items are read as anywhere. -/
theorem first_item {ts : List Token} {outer : List Frame} {v : Datum}
    (h : ts.foldlM step (.value (.list [] :: outer)) = some (.after v outer)) :
    ts.foldlM step (.firstItem outer) = some (.after v outer) := by
  cases ts with
  | nil => cases h
  | cons t ts =>
    cases t with
    | closeList => cases h
    | _ => exact h

theorem written_list {close : List Char} {texts : List (List Char)} {xs : List Datum}
    (stops : ∀ rest, Over (close ++ rest)) (closed : Spells close [.closeList])
    (h : List.Forall₂ Written texts xs) :
    Written ('[' :: join [','] texts ++ close) (.list xs) := by
  cases h with
  | nil =>
    refine ⟨[.openList, .closeList], closed.cons (c := '[') rfl, ?_⟩
    intro outer
    rfl
  | cons h hs =>
    obtain ⟨ts, spells, items⟩ := written_items stops closed h hs
    refine ⟨.openList :: ts, spells.cons (c := '[') rfl, ?_⟩
    intro outer
    exact first_item (items [] outer)

/-! ## Records -/

theorem spells_closeRecord : Spells ['\x7d'] [.closeRecord] := spells_nil.cons (c := '\x7d') rfl

/-- The fields of a record, up to its end. -/
theorem written_fields {t close : List Char} {f : String × Datum} {texts : List (List Char)}
    {fs : List (String × Datum)} (stops : ∀ rest, Over (close ++ rest))
    (closed : Spells close [.closeRecord]) (h : WrittenField t f)
    (hs : List.Forall₂ WrittenField texts fs) :
    ∃ ts, Spells (join [','] (t :: texts) ++ close) (.text f.1 :: ts) ∧
      ∀ done outer, (Token.text f.1 :: ts).foldlM step (.name done outer) =
        some (.after (.record (done.reverse ++ f :: fs)) outer) := by
  induction hs generalizing t f with
  | nil =>
    obtain ⟨ts, spells, means⟩ := h
    refine ⟨.colon :: (ts ++ [Token.closeRecord]), ?_, ?_⟩
    · exact spells.append (fun rest _ => stops rest) closed
    intro done outer
    show (ts ++ [Token.closeRecord]).foldlM step (.value (.record done f.1 :: outer)) = _
    rw [List.foldlM_append, means]
    simp [step]
  | @cons t' g _ _ h' hs ih =>
    obtain ⟨ts, spells, means⟩ := h
    obtain ⟨us, spells', rest⟩ := ih h'
    refine ⟨.colon :: (ts ++ .comma :: .text g.1 :: us), ?_, ?_⟩
    · have comma := spells'.cons (c := ',') rfl
      have both := spells.append (fun rest _ => over_comma _) comma
      simpa [join] using both
    · intro done outer
      show (ts ++ .comma :: .text g.1 :: us).foldlM step (.value (.record done f.1 :: outer)) = _
      rw [List.foldlM_append, means]
      show (Token.text g.1 :: us).foldlM step (.name (f :: done) outer) = _
      rw [rest]
      simp

theorem written_record {close : List Char} {texts : List (List Char)}
    {fs : List (String × Datum)} (stops : ∀ rest, Over (close ++ rest))
    (closed : Spells close [.closeRecord]) (h : List.Forall₂ WrittenField texts fs) :
    Written ('\x7b' :: join [','] texts ++ close) (.record fs) := by
  cases h with
  | nil =>
    refine ⟨[.openRecord, .closeRecord], closed.cons (c := '\x7b') rfl, ?_⟩
    intro outer
    rfl
  | cons h hs =>
    obtain ⟨ts, spells, fields⟩ := written_fields stops closed h hs
    refine ⟨.openRecord :: .text _ :: ts, spells.cons (c := '\x7b') rfl, ?_⟩
    intro outer
    exact fields [] outer

/-! ## Values as they are read -/

/-- All numbers in the value are integers. -/
inductive Whole : Datum → Prop
  | null : Whole .null
  | bool (b : Bool) : Whole (.bool b)
  | int (n : Int) : Whole (.int n)
  | text (s : String) : Whole (.text s)
  | list {xs : List Datum} (items : ∀ x ∈ xs, Whole x) : Whole (.list xs)
  | record {fs : List (String × Datum)} (fields : ∀ f ∈ fs, Whole f.2) : Whole (.record fs)

/-- All numbers in the value are integers of 64 bits. -/
inductive Plain : Datum → Prop
  | null : Plain .null
  | bool (b : Bool) : Plain (.bool b)
  | int {n : Int} (word : Datum.isWord n = true) : Plain (.int n)
  | text (s : String) : Plain (.text s)
  | list {xs : List Datum} (items : ∀ x ∈ xs, Plain x) : Plain (.list xs)
  | record {fs : List (String × Datum)} (fields : ∀ f ∈ fs, Plain f.2) : Plain (.record fs)

theorem sizeOf_snd_lt {f : String × Datum} {fs : List (String × Datum)} (h : f ∈ fs) :
    sizeOf f.2 < 1 + sizeOf fs := by
  have member := List.sizeOf_lt_of_mem h
  have parts : sizeOf f = 1 + sizeOf f.1 + sizeOf f.2 := by
    cases f
    rfl
  omega

/-- The value that is read of the text of a value: integers of more than 64 bits are kept as
they are written. -/
def asRead : Datum → Datum
  | .null => .null
  | .bool b => .bool b
  | .int n => number n
  | .decimal s => .decimal s
  | .text s => .text s
  | .list xs => .list (xs.map asRead)
  | .record fs => .record (fs.map fun f => (f.1, asRead f.2))
decreasing_by
  · have := List.sizeOf_lt_of_mem ‹_›
    simp
    omega
  · simpa using sizeOf_snd_lt ‹_›

theorem whole_of_plain {d : Datum} (h : Plain d) : Whole d := by
  induction h with
  | null => exact .null
  | bool b => exact .bool b
  | @int n => exact .int n
  | text s => exact .text s
  | list _ ih => exact .list ih
  | record _ ih => exact .record ih

/-- What fits into 64 bits is read as it is. -/
theorem asRead_of_plain {d : Datum} (h : Plain d) : asRead d = d := by
  induction h with
  | null | bool | text => rw [asRead]
  | int word =>
    rw [asRead, number, if_pos word]
  | list _ ih =>
    rw [asRead, List.map_congr_left ih, List.map_id']
  | record _ ih =>
    rw [asRead, List.map_congr_left fun f hf => by rw [ih f hf], List.map_id']

theorem asRead_int (n : Int) : asRead (.int n) = number n := by rw [asRead]

theorem eq_int_of_asRead {d : Datum} {n : Int} (whole : Whole d) (same : asRead d = number n) :
    d = .int n := by
  cases whole with
  | int m =>
    rw [asRead_int] at same
    rw [number_inj same]
  | _ =>
    unfold number at same
    split at same <;> simp [asRead] at same

theorem eq_of_map_eq {α β : Type} {f : α → β} {xs ys : List α}
    (each : ∀ x ∈ xs, ∀ y ∈ ys, f x = f y → x = y) (same : xs.map f = ys.map f) : xs = ys := by
  induction xs generalizing ys with
  | nil => exact (List.map_eq_nil_iff.1 same.symm).symm
  | cons x xs ih =>
    cases ys with
    | nil => cases same
    | cons y ys =>
      obtain ⟨first, rest⟩ := List.cons.inj same
      rw [each x List.mem_cons_self y List.mem_cons_self first]
      rw [ih (fun x hx y hy => each x (List.mem_cons_of_mem _ hx) y (List.mem_cons_of_mem _ hy)) rest]

/-- Different values are read as different ones. -/
theorem asRead_inj {d e : Datum} (hd : Whole d) (he : Whole e) (same : asRead d = asRead e) :
    d = e := by
  induction hd generalizing e with
  | int m => exact (eq_int_of_asRead he (same.symm.trans (asRead_int m))).symm
  | null =>
    cases he with
    | null => rfl
    | int n => exact eq_int_of_asRead .null (same.trans (asRead_int n))
    | _ => simp [asRead] at same
  | bool b =>
    cases he with
    | bool c => simpa [asRead] using same
    | int n => exact eq_int_of_asRead (.bool b) (same.trans (asRead_int n))
    | _ => simp [asRead] at same
  | text s =>
    cases he with
    | text t => simpa [asRead] using same
    | int n => exact eq_int_of_asRead (.text s) (same.trans (asRead_int n))
    | _ => simp [asRead] at same
  | list items ih =>
    cases he with
    | list items' =>
      rw [asRead, asRead] at same
      rw [eq_of_map_eq (fun x hx y hy => ih x hx (items' y hy)) (Datum.list.inj same)]
    | int n => exact eq_int_of_asRead (.list items) (same.trans (asRead_int n))
    | _ => simp [asRead] at same
  | record fields ih =>
    cases he with
    | record fields' =>
      rw [asRead, asRead] at same
      refine congrArg Datum.record (eq_of_map_eq ?_ (Datum.record.inj same))
      intro f hf g hg same
      obtain ⟨name, value⟩ := Prod.mk.inj same
      exact Prod.ext name (ih f hf (fields' g hg) value)
    | int n => exact eq_int_of_asRead (.record fields) (same.trans (asRead_int n))
    | _ => simp [asRead] at same

/-! ## Compact form -/

/-- Texts with a comma between each two of them. -/
theorem eq_join {α : Type} {write : List α → List Char} {text : α → List Char}
    (none : write [] = []) (one : ∀ x, write [x] = text x)
    (more : ∀ x y r, write (x :: y :: r) = text x ++ ',' :: write (y :: r)) (xs : List α) :
    write xs = join [','] (xs.map text) := by
  induction xs with
  | nil => exact none
  | cons x xs ih =>
    cases xs with
    | nil => exact one x
    | cons y r =>
      rw [more, ih]
      simp [join]

theorem compactItems_eq (xs : List Datum) : compactItems xs = join [','] (xs.map compact) :=
  eq_join rfl (fun _ => rfl) (fun _ _ _ => rfl) xs

theorem compactFields_eq (fs : List (String × Datum)) :
    compactFields fs = join [','] (fs.map fun f => quoted f.1 ++ ':' :: compact f.2) :=
  eq_join rfl (fun _ => rfl) (fun _ _ _ => rfl) fs

theorem written_compact {d : Datum} (h : Whole d) : Written (compact d) (asRead d) := by
  induction h with
  | null =>
    rw [asRead]
    exact written_null
  | bool b =>
    rw [asRead]
    exact written_bool b
  | int n =>
    rw [asRead]
    exact written_int n
  | text s =>
    rw [asRead]
    exact written_text s
  | @list xs items ih =>
    have each : List.Forall₂ Written (xs.map compact) (xs.map asRead) := by
      rw [List.forall₂_map_left_iff, List.forall₂_map_right_iff, List.forall₂_same]
      exact ih
    unfold compact
    rw [compactItems_eq, asRead]
    exact written_list (fun rest => over_cons (by decide) (by decide) rest) spells_closeList each
  | @record fs fields ih =>
    have each : List.Forall₂ WrittenField
        (fs.map fun f => quoted f.1 ++ ':' :: compact f.2)
        (fs.map fun f => (f.1, asRead f.2)) := by
      rw [List.forall₂_map_left_iff, List.forall₂_map_right_iff, List.forall₂_same]
      intro f hf
      obtain ⟨ts, spells, means⟩ := ih f hf
      have value := spells.cons (c := ':') rfl
      exact ⟨ts, (spells_quoted f.1).append
        (fun rest _ => over_cons (by decide) (by decide) _) value, means⟩
    unfold compact
    rw [compactFields_eq, asRead]
    exact written_record (fun rest => over_cons (by decide) (by decide) rest) spells_closeRecord each

/-- **The compact text of a value reads back as the value.** -/
theorem read?_compact {d : Datum} (h : Plain d) : read? (compact d) = some d := by
  have read := read?_of_written (written_compact (whole_of_plain h))
  rwa [asRead_of_plain h] at read

/-- **Different values are written differently.** -/
theorem compact_inj {d e : Datum} (hd : Whole d) (he : Whole e) (same : compact d = compact e) :
    d = e := by
  have read := read?_of_written (written_compact hd)
  rw [same, read?_of_written (written_compact he)] at read
  exact asRead_inj hd he (Option.some.inj read).symm
end SiteWalk.Json

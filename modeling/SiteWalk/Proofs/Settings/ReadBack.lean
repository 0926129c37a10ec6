import SiteWalk.Proofs.Json.Written
import SiteWalk.Proofs.Text.Pieces
import SiteWalk.Settings.Form

/-!
# Settings are read back

Settings whose numbers are in range are read back from the value that is written of them, and
the text of this value can be read.

    s.InRange → ofDatum? .json s.toDatum = some s                    (ofDatum?_toDatum)
    s.InRange → Json.Plain s.toDatum                                    (plain_toDatum)
-/

namespace SiteWalk

open Datum

/-! ## Parts of values -/

namespace Datum

theorem isWord_of_lt {n : Nat} (h : n < bound64) : isWord n = true := by
  unfold isWord
  rw [Bool.or_eq_true]
  right
  simp
  omega

theorem plain_nat {n : Nat} (h : n < bound64) : Json.Plain (.int n) := .int (isWord_of_lt h)

theorem nat?_int {n bound : Nat} (h : n < bound) : nat? bound (.int n) = some n := by
  show (if n < bound then some n else none) = _
  rw [if_pos h]

theorem list?_map {α : Type} {read : Datum → Option α} {write : α → Datum} {xs : List α}
    (h : ∀ x ∈ xs, read (write x) = some x) : list? read (.list (xs.map write)) = some xs :=
  Text.mapM_map_of_forall h

theorem plain_list {α : Type} {write : α → Datum} {xs : List α}
    (h : ∀ x ∈ xs, Json.Plain (write x)) : Json.Plain (.list (xs.map write)) := by
  refine .list fun d hd => ?_
  obtain ⟨x, hx, rfl⟩ := List.mem_map.1 hd
  exact h x hx

end Datum

/-! ## Maps of texts -/

namespace TextMap

/-- A name above all others is put at the end. -/
theorem put_last {k v : String} {es : List (String × String)} (h : ∀ e ∈ es, e.1 < k) :
    put k v es = es ++ [(k, v)] := by
  induction es with
  | nil => rfl
  | cons e es ih =>
    have he := h e List.mem_cons_self
    unfold put
    rw [if_neg (String.lt_asymm he), if_neg (String.ne_of_lt he).symm,
      ih fun x hx => h x (List.mem_cons_of_mem _ hx)]
    rfl

theorem entries_foldl {m : TextMap} {es : List (String × String)}
    (h : (m.entries ++ es).Pairwise fun a b => a.1 < b.1) :
    (es.foldl (fun m e => m.insert e.1 e.2) m).entries = m.entries ++ es := by
  induction es generalizing m with
  | nil => simp
  | cons e es ih =>
    have above : ∀ d ∈ m.entries, d.1 < e.1 := by
      intro d hd
      exact (List.pairwise_append.1 h).2.2 d hd e List.mem_cons_self
    have put : (m.insert e.1 e.2).entries = m.entries ++ [e] := put_last above
    have rest : ((m.insert e.1 e.2).entries ++ es).Pairwise fun a b => a.1 < b.1 := by
      rw [put, List.append_assoc]
      exact h
    rw [List.foldl_cons, ih rest, put, List.append_assoc]
    rfl

theorem ofList_entries (m : TextMap) : ofList m.entries = m := by
  have same : (ofList m.entries).entries = m.entries := entries_foldl (m := empty) m.inOrder
  cases h : ofList m.entries
  rw [h] at same
  cases same
  rfl

end TextMap

namespace Settings

theorem textMap?_textMap (m : TextMap) : textMap? (textMap m) = some m := by
  have entries : (m.entries.map fun e => (e.1, Datum.text e.2)).mapM
      (fun f => (text? f.2).map fun s => (f.1, s)) = some m.entries :=
    Text.mapM_map_of_forall fun _ _ => rfl
  unfold textMap? textMap
  dsimp only
  rw [entries, Option.map_some, TextMap.ofList_entries]

theorem plain_textMap (m : TextMap) : Json.Plain (textMap m) := by
  refine .record fun f hf => ?_
  obtain ⟨e, -, rfl⟩ := List.mem_map.1 hf
  exact .text e.2

theorem optional?_optionalText (s : Option String) : optional? text? (optionalText s) = some s := by
  cases s <;> rfl

theorem plain_optionalText (s : Option String) : Json.Plain (optionalText s) := by
  cases s with
  | none => exact .null
  | some s => exact .text s

/-! ## Sections -/

/-- The numbers are those of the types that settings are written in. -/
structure InRange (s : Settings) : Prop where
  depth : s.walk.depth < bound32
  coolDown : s.walk.coolDown < bound64
  timeout : s.request.timeout < bound64

instance (s : Settings) : Decidable s.InRange :=
  decidable_of_iff (s.walk.depth < bound32 ∧ s.walk.coolDown < bound64 ∧
    s.request.timeout < bound64) ⟨fun ⟨d, c, t⟩ => ⟨d, c, t⟩, fun ⟨d, c, t⟩ => ⟨d, c, t⟩⟩

theorem Walk.ofDatum?_toDatum {w : Walk} (depth : w.depth < bound32)
    (coolDown : w.coolDown < bound64) : Walk.ofDatum? .json w.toDatum = some w := by
  have categories : list? (category? .json) (.list (w.categories.map fun c => .text c.name)) =
      some w.categories := by
    refine list?_map fun c _ => ?_
    cases c <;> rfl
  simp [Walk.ofDatum?, Walk.toDatum, fields?, orDefault?, given?, nat?_int depth,
    nat?_int coolDown, categories, optional?_optionalText, bool?, text?]

theorem Content.ofDatum?_toDatum (c : Content) : Content.ofDatum? .json c.toDatum = some c := by
  have mode : Extract.Mode.ofName? c.mode.name = some c.mode := by
    cases c.mode <;> rfl
  simp [Content.ofDatum?, Content.toDatum, fields?, orDefault?, given?, caseName?, mode, bool?,
    text?]

theorem Credentials.ofDatum?_toDatum (c : Credentials) :
    Credentials.ofDatum? .json c.toDatum = some c := by
  simp [Credentials.ofDatum?, Credentials.toDatum, fields?, orDefault?, required?, given?,
    optional?_optionalText, text?]

theorem Request.ofDatum?_toDatum {r : Request} (timeout : r.timeout < bound64) :
    Request.ofDatum? .json r.toDatum = some r := by
  obtain ⟨agent, seconds, credentials, headers, cookies⟩ := r
  have number : nat? bound64 (.int seconds) = some seconds := nat?_int timeout
  cases credentials with
  | none =>
    simp [Request.ofDatum?, Request.toDatum, fields?, orDefault?, given?, number, optional?,
      textMap?_textMap, text?]
  | some c =>
    have given : optional? (Credentials.ofDatum? .json) c.toDatum = some (some c) := by
      show (Credentials.ofDatum? .json c.toDatum).map some = _
      rw [Credentials.ofDatum?_toDatum]
      rfl
    simp [Request.ofDatum?, Request.toDatum, fields?, orDefault?, given?, number, given,
      textMap?_textMap, text?]

/-- **Settings are read back from what is written of them.** -/
theorem ofDatum?_toDatum {s : Settings} (h : s.InRange) : ofDatum? .json s.toDatum = some s := by
  simp [ofDatum?, toDatum, fields?, orDefault?, given?, Walk.ofDatum?_toDatum h.depth h.coolDown,
    Content.ofDatum?_toDatum, Request.ofDatum?_toDatum h.timeout]

theorem plain_toDatum {s : Settings} (h : s.InRange) : Json.Plain s.toDatum := by
  have depth : s.walk.depth < bound64 := Nat.lt_trans h.depth (by decide)
  have walk : Json.Plain s.walk.toDatum := by
    refine .record ?_
    simp only [List.forall_mem_cons]
    exact ⟨plain_nat depth, .bool _, .bool _, .bool _, .text _, plain_optionalText _,
      plain_optionalText _, plain_list fun c _ => .text c.name, plain_nat h.coolDown,
      List.forall_mem_nil _⟩
  have content : Json.Plain s.content.toDatum := by
    refine .record ?_
    simp only [List.forall_mem_cons]
    exact ⟨.text _, .bool _, .text _, .text _, List.forall_mem_nil _⟩
  have request : Json.Plain s.request.toDatum := by
    refine .record ?_
    simp only [List.forall_mem_cons]
    refine ⟨.text _, plain_nat h.timeout, ?_, plain_textMap _, plain_textMap _,
      List.forall_mem_nil _⟩
    cases s.request.credentials with
    | none => exact .null
    | some c =>
      refine .record ?_
      simp only [List.forall_mem_cons]
      exact ⟨.text _, plain_optionalText _, List.forall_mem_nil _⟩
  refine .record ?_
  simp only [List.forall_mem_cons]
  exact ⟨walk, content, request, List.forall_mem_nil _⟩

end Settings

end SiteWalk

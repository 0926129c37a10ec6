import Mathlib.Algebra.Ring.Int.Defs
import SiteWalk.Proofs.Settings.ReadBack
import SiteWalk.Proofs.Text.Digest

/-!
# Settings have one text each

Every field of the settings is written under its name, in one order, so the value that is
written of settings determines them, and so does its compact text, whatever the numbers are.

    s.canonical = t.canonical ↔ s = t                                     (canonical_inj)
    s.digest = t.digest ↔ s = t ∨ Collide …                              (digest_eq_iff)
-/

namespace SiteWalk

theorem Link.Category.name_inj {a b : Category} : a.name = b.name ↔ a = b := by
  constructor
  · intro same
    have read (c : Category) : Category.ofName? c.name = some c := by cases c <;> rfl
    exact Option.some.inj ((read a).symm.trans (same ▸ read b))
  · rintro rfl
    rfl

theorem Extract.Mode.name_inj {a b : Mode} : a.name = b.name ↔ a = b := by
  constructor
  · intro same
    have read (m : Mode) : Mode.ofName? m.name = some m := by cases m <;> rfl
    exact Option.some.inj ((read a).symm.trans (same ▸ read b))
  · rintro rfl
    rfl

namespace Settings

/-! ## Values determine settings -/

theorem optionalText_inj {s t : Option String} : optionalText s = optionalText t ↔ s = t := by
  cases s <;> cases t <;> simp [optionalText]

theorem textMap_inj {m n : TextMap} : textMap m = textMap n ↔ m = n := by
  constructor
  · intro same
    have read := textMap?_textMap m
    rw [same, textMap?_textMap] at read
    exact (Option.some.inj read).symm
  · rintro rfl
    rfl

theorem categories_inj {cs ds : List Link.Category} :
    cs.map (fun c => Datum.text c.name) = ds.map (fun c => Datum.text c.name) ↔ cs = ds := by
  refine List.map_inj_right fun a b same => ?_
  exact Link.Category.name_inj.1 (Datum.text.inj same)

theorem Walk.toDatum_inj {v w : Walk} : v.toDatum = w.toDatum ↔ v = w := by
  obtain ⟨⟩ := v
  obtain ⟨⟩ := w
  simp [Walk.toDatum, optionalText_inj, categories_inj]

theorem Content.toDatum_inj {c d : Content} : c.toDatum = d.toDatum ↔ c = d := by
  obtain ⟨⟩ := c
  obtain ⟨⟩ := d
  simp [Content.toDatum, Extract.Mode.name_inj]

theorem Credentials.toDatum_inj {c d : Credentials} : c.toDatum = d.toDatum ↔ c = d := by
  obtain ⟨⟩ := c
  obtain ⟨⟩ := d
  simp [Credentials.toDatum, optionalText_inj]

theorem Credentials.toDatum_ne_null (c : Credentials) : c.toDatum ≠ .null := nofun

theorem Request.toDatum_inj {q r : Request} : q.toDatum = r.toDatum ↔ q = r := by
  obtain ⟨_, _, c, _, _⟩ := q
  obtain ⟨_, _, d, _, _⟩ := r
  have given {c : Credentials} := c.toDatum_ne_null
  cases c with
  | none => cases d <;> simp [Request.toDatum, textMap_inj, given.symm]
  | some c =>
    cases d <;>
      simp [Request.toDatum, textMap_inj, given, Credentials.toDatum_inj]

theorem toDatum_inj {s t : Settings} : s.toDatum = t.toDatum ↔ s = t := by
  obtain ⟨⟩ := s
  obtain ⟨⟩ := t
  simp [toDatum, Walk.toDatum_inj, Content.toDatum_inj, Request.toDatum_inj]

/-! ## Texts determine settings -/

/-- Settings hold no numbers but integers. -/
theorem whole_toDatum (s : Settings) : Json.Whole s.toDatum := by
  have optional (t : Option String) : Json.Whole (optionalText t) :=
    Json.whole_of_plain (plain_optionalText t)
  have texts (m : TextMap) : Json.Whole (textMap m) := Json.whole_of_plain (plain_textMap m)
  have categories : Json.Whole (.list (s.walk.categories.map fun c => .text c.name)) :=
    Json.whole_of_plain (Datum.plain_list fun c _ => .text c.name)
  have walk : Json.Whole s.walk.toDatum := by
    refine .record ?_
    simp only [List.forall_mem_cons]
    exact ⟨.int _, .bool _, .bool _, .bool _, .text _, optional _, optional _, categories, .int _,
      List.forall_mem_nil _⟩
  have content : Json.Whole s.content.toDatum := by
    refine .record ?_
    simp only [List.forall_mem_cons]
    exact ⟨.text _, .bool _, .text _, .text _, List.forall_mem_nil _⟩
  have request : Json.Whole s.request.toDatum := by
    refine .record ?_
    simp only [List.forall_mem_cons]
    refine ⟨.text _, .int _, ?_, texts _, texts _, List.forall_mem_nil _⟩
    cases s.request.credentials with
    | none => exact .null
    | some c =>
      refine .record ?_
      simp only [List.forall_mem_cons]
      exact ⟨.text _, optional _, List.forall_mem_nil _⟩
  refine .record ?_
  simp only [List.forall_mem_cons]
  exact ⟨walk, content, request, List.forall_mem_nil _⟩

theorem canonical_inj {s t : Settings} : s.canonical = t.canonical ↔ s = t := by
  constructor
  · intro same
    exact toDatum_inj.1 (Json.compact_inj s.whole_toDatum t.whole_toDatum same)
  · rintro rfl
    rfl

/-- Different settings whose texts have the same digest. -/
def Collide (s t : Settings) : Prop :=
  Text.Sha256.Collide (Text.bytes s.canonical) (Text.bytes t.canonical)

/-- **Digests tell settings apart, but for collisions.** -/
theorem digest_eq_iff {s t : Settings} : s.digest = t.digest ↔ s = t ∨ Collide s t := by
  unfold digest Collide
  rw [Text.Sha256.hex_eq_iff, canonical_inj]

end Settings

end SiteWalk

/-!
# Maps of texts

A map from names to texts, kept in the order of the names, so a map has one form.

    get? (insert m k v) k = some v
-/

namespace SiteWalk

structure TextMap where
  entries : List (String × String)
  inOrder : entries.Pairwise fun a b => a.1 < b.1
  deriving DecidableEq

namespace TextMap

def empty : TextMap := ⟨[], .nil⟩

instance : Inhabited TextMap := ⟨empty⟩

/-- The entries with `k` at its place; an entry of that name is replaced. -/
def put (k v : String) : List (String × String) → List (String × String)
  | [] => [(k, v)]
  | e :: r =>
    if k < e.1 then (k, v) :: e :: r
    else if k = e.1 then (k, v) :: r
    else e :: put k v r

theorem mem_put {k v : String} {es : List (String × String)} {e : String × String}
    (h : e ∈ put k v es) : e = (k, v) ∨ e ∈ es := by
  induction es with
  | nil => exact Or.inl (by simpa [put] using h)
  | cons d r ih =>
    unfold put at h
    split at h
    · rcases List.mem_cons.1 h with h | h
      · exact Or.inl h
      · exact Or.inr h
    · split at h
      · rcases List.mem_cons.1 h with h | h
        · exact Or.inl h
        · exact Or.inr (List.mem_cons_of_mem d h)
      · rcases List.mem_cons.1 h with h | h
        · exact Or.inr (h ▸ List.mem_cons_self)
        · rcases ih h with h | h
          · exact Or.inl h
          · exact Or.inr (List.mem_cons_of_mem d h)

theorem put_inOrder {k v : String} {es : List (String × String)}
    (h : es.Pairwise fun a b => a.1 < b.1) : (put k v es).Pairwise fun a b => a.1 < b.1 := by
  induction es with
  | nil => simp [put]
  | cons d r ih =>
    have hd := List.pairwise_cons.1 h
    unfold put
    split
    · next hlt =>
      refine List.pairwise_cons.2 ⟨fun e he => ?_, h⟩
      rcases List.mem_cons.1 he with he | he
      · exact he ▸ hlt
      · exact String.lt_trans hlt (hd.1 e he)
    · next hge =>
      split
      · next heq => exact List.pairwise_cons.2 ⟨fun e he => heq ▸ hd.1 e he, hd.2⟩
      · next hne =>
        refine List.pairwise_cons.2 ⟨fun e he => ?_, ih hd.2⟩
        rcases mem_put he with he | he
        · subst he
          exact Std.lt_of_le_of_ne (String.not_lt.1 hge) (fun h => hne h.symm)
        · exact hd.1 e he

def insert (m : TextMap) (k v : String) : TextMap := ⟨put k v m.entries, put_inOrder m.inOrder⟩

/-- The map of a list of entries; of two entries of one name the later counts. -/
def ofList (es : List (String × String)) : TextMap := es.foldl (fun m e => m.insert e.1 e.2) empty

def get? (m : TextMap) (k : String) : Option String :=
  (m.entries.find? fun e => e.1 == k).map Prod.snd

def isEmpty (m : TextMap) : Bool := m.entries.isEmpty

def size (m : TextMap) : Nat := m.entries.length

end TextMap

end SiteWalk

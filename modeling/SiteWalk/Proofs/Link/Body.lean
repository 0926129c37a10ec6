import SiteWalk.Proofs.Link.Scope
import SiteWalk.Proofs.Text.Offset

/-!
# The body of a page

The part of a page that links are looked for in is what stands between the end of the first
body tag and the last closing one behind it, in any case of letters.  It can be cut out of the
page by offsets that are found in its lower-cased copy: no cut is out of range or inside of a
character.

    bodySlice? page = some (bodyScope page)                              (bodySlice?_eq_some)
    bodyScope (p ++ "<body" ++ a ++ ">" ++ c ++ "</body" ++ t) = c       (scope_of_tags)
-/

namespace SiteWalk.Link

open Text

/-! ## Cutting by offsets -/

/-- The part of a page from byte `start` to the last closing tag behind it, which is looked for
in the lower-cased page; none if the page cannot be cut at one of the two. -/
def sliceFrom? (start : Nat) (page : List Char) : Option (List Char) := do
  let closing := (rfind? "</body".toList.isPrefixOf (lower page)).filter (start ≤ ·)
  let (front, _) ← splitAt? (closing.getD (byteSize page)) page
  let (_, scope) ← splitAt? start front
  return scope

/-- The scope of a page, cut out by offsets that are found in the lower-cased page; none if one
of the cuts fails. -/
def bodySlice? (page : List Char) : Option (List Char) :=
  match find? "<body".toList.isPrefixOf (lower page) with
  | none => some page
  | some opening => do
    let (_, tag) ← splitAt? opening (lower page)
    let start := (find? (startsIn (· == '>')) tag).map (opening + · + 1)
    sliceFrom? (start.getD (byteSize page)) page

theorem sliceFrom?_byteSize (front inner : List Char) :
    sliceFrom? (byteSize front) (front ++ inner) =
      some ((beforeLastLower? "</body".toList inner).getD inner) := by
  have some_ : "</body".toList ≠ [] := by decide
  have closing : (rfind? "</body".toList.isPrefixOf (lower (front ++ inner))).filter
      (byteSize front ≤ ·) =
      (beforeLastLower? "</body".toList inner).map fun s => byteSize (front ++ s) := by
    have behind := rfind?_append "</body".toList.isPrefixOf (lower front) (lower inner)
    rw [byteSize_lower, rfind?_lower some_, ← lower_append] at behind
    rw [behind, Option.map_map]
    simp [Function.comp_def]
  have cut (scope back : List Char) (h : scope ++ back = inner) :
      ((splitAt? (byteSize (front ++ scope)) (front ++ inner)).bind fun upTo =>
        (splitAt? (byteSize front) upTo.1).bind fun parts => some parts.2) = some scope := by
    rw [← h, ← List.append_assoc, splitAt?_byteSize, Option.bind_some, splitAt?_byteSize]
    rfl
  unfold sliceFrom?
  rw [closing]
  cases last : beforeLastLower? "</body".toList inner with
  | none => exact cut inner [] (List.append_nil inner)
  | some scope =>
    obtain ⟨back, h⟩ := prefix_of_beforeLastLower? last
    exact cut scope back h

/-! ## The end of the opening tag -/

variable {page front name inner : List Char}

theorem bodyScope_of_closed
    (cut : cutAtLower? "<body".toList page = some (front, name ++ '>' :: inner))
    (clean : '>' ∉ name) :
    bodyScope page = (beforeLastLower? "</body".toList inner).getD inner := by
  have behind : (name ++ '>' :: inner).dropWhile (· != '>') = '>' :: inner :=
    congrArg Prod.snd (cutBefore_char clean inner)
  unfold bodyScope
  rw [cut]
  dsimp only
  rw [behind, List.drop_one, List.tail_cons]

theorem bodyScope_of_open (cut : cutAtLower? "<body".toList page = some (front, name))
    (clean : '>' ∉ name) : bodyScope page = [] := by
  have behind : name.dropWhile (· != '>') = [] := by
    rw [List.dropWhile_eq_nil_iff]
    intro c hc
    rw [bne_iff_ne]
    rintro rfl
    exact clean hc
  unfold bodyScope
  rw [cut]
  dsimp only
  rw [behind]
  rfl

/-! ## Cuts by offsets -/

/-- **The offsets found in the lower-cased page are offsets of the page.**  No cut fails, and
what is cut out is the scope. -/
theorem bodySlice?_eq_some (page : List Char) : bodySlice? page = some (bodyScope page) := by
  have some_ : "<body".toList ≠ [] := by decide
  unfold bodySlice?
  rw [find?_lower some_]
  cases cut : cutAtLower? "<body".toList page with
  | none =>
    unfold bodyScope
    rw [cut]
    rfl
  | some parts =>
    obtain ⟨front, tag⟩ := parts
    obtain rfl := append_of_cutAtLower? cut
    have opened : splitAt? (byteSize front) (lower (front ++ tag)) =
        some (lower front, lower tag) := by
      rw [lower_append, ← byteSize_lower, splitAt?_byteSize]
    have same (c : Char) : (lowerChar c == '>') = (c == '>') := by
      rw [Bool.eq_iff_iff, beq_iff_eq, beq_iff_eq, lowerChar_eq_iff (by decide)]
    show (splitAt? (byteSize front) (lower (front ++ tag))).bind _ = _
    rw [opened, Option.bind_some]
    dsimp only
    rw [find?_startsIn_lower same, find?_startsIn]
    by_cases ends : '>' ∈ tag
    · obtain ⟨name, inner, rfl, clean⟩ := List.eq_append_cons_of_mem ends
      have found : (name ++ '>' :: inner).any (· == '>') = true := by simp
      have start : byteSize front + byteSize name + 1 = byteSize (front ++ name ++ ['>']) := by
        rw [byteSize_append, byteSize_append]
        rfl
      have whole : front ++ (name ++ '>' :: inner) = (front ++ name ++ ['>']) ++ inner := by simp
      rw [if_pos found, cutBefore_char clean inner, Option.map_some, Option.getD_some, start,
        bodyScope_of_closed cut clean, whole]
      exact sliceFrom?_byteSize _ inner
    · have none : ¬ tag.any (· == '>') = true := by
        rw [List.any_beq']
        simpa using ends
      have rest := sliceFrom?_byteSize (front ++ tag) []
      rw [List.append_nil] at rest
      rw [if_neg none, Option.map_none, Option.getD_none, bodyScope_of_open cut ends, rest]
      rfl

/-! ## The part between the tags -/

variable {opening closing attrs content rest : List Char}

theorem cut_opening (first : Lacks "<body" front) (opens : Reads "<body" opening)
    (inner : List Char) :
    cutAtLower? "<body".toList (front ++ (opening ++ inner)) =
      some (front, opening ++ inner) := by
  refine cutAtLower?_append (x := '<') (q := "body".toList) (by decide) ?_ first
  rw [lower_append, opens]
  exact List.prefix_append _ _

theorem tag_of_opening (opens : Reads "<body" opening) (clean : '>' ∉ attrs) :
    '>' ∉ opening ++ attrs := by
  rw [List.mem_append, not_or]
  refine ⟨?_, clean⟩
  rw [← mem_lower (by decide), opens]
  decide

theorem before_closing (closes : Reads "</body" closing) (last : Lacks "</body" rest) :
    beforeLastLower? "</body".toList (content ++ (closing ++ rest)) = some content := by
  cases closing with
  | nil => cases closes
  | cons c name =>
    have inName : lower name = "/body".toList := (List.cons.inj closes).2
    rw [List.cons_append]
    refine beforeLastLower?_append (by decide) ?_ ?_
    · rw [← List.cons_append, lower_append, closes]
      exact List.prefix_append _ _
    · intro again
      rw [lower_append, inName] at again
      exact last (infix_of_infix_append (x := '<') (q := "/body".toList) (by decide) again)

/-- What is behind the first body tag is cut at the last closing tag in it. -/
theorem bodyScope_behind (first : Lacks "<body" front) (opens : Reads "<body" opening)
    (clean : '>' ∉ attrs) (inner : List Char) :
    bodyScope (front ++ (opening ++ (attrs ++ '>' :: inner))) =
      (beforeLastLower? "</body".toList inner).getD inner := by
  have cut := cut_opening first opens (attrs ++ '>' :: inner)
  rw [← List.append_assoc opening] at cut
  rw [← List.append_assoc opening]
  exact bodyScope_of_closed cut (tag_of_opening opens clean)

/-- **The scope of a page is what its body tags enclose**, in any case of letters.  It is cut
out at offsets that are found in the lower-cased page, and none of the cuts fails.  It begins
behind the first body tag, whatever the attributes, and ends at the last closing tag, whatever
tags of the same name lie between; it ends with the page if there is no closing tag behind the
first one, and a page without a body tag is its own scope. -/
theorem scope_of_tags :
    (∀ page, bodySlice? page = some (bodyScope page)) ∧
    (∀ front opening attrs content closing rest, Lacks "<body" front → Reads "<body" opening →
      '>' ∉ attrs → Reads "</body" closing → Lacks "</body" rest →
      bodyScope (front ++ (opening ++ (attrs ++ '>' :: (content ++ (closing ++ rest))))) =
        content) ∧
    (∀ front opening attrs content, Lacks "<body" front → Reads "<body" opening →
      '>' ∉ attrs → Lacks "</body" content →
      bodyScope (front ++ (opening ++ (attrs ++ '>' :: content))) = content) ∧
    ∀ page, Lacks "<body" page → bodyScope page = page := by
  refine ⟨bodySlice?_eq_some, ?_, ?_, ?_⟩
  · intro front opening attrs content closing rest first opens clean closes last
    rw [bodyScope_behind first opens clean, before_closing closes last]
    rfl
  · intro front opening attrs content first opens clean endless
    rw [bodyScope_behind first opens clean,
      (beforeLastLower?_eq_none_iff (by decide)).2 endless]
    rfl
  · intro page none
    unfold bodyScope
    rw [(cutAtLower?_eq_none_iff (by decide)).2 none]

/-- A page in which a script writes both tags once more. -/
theorem scope_of_tags_script :
    bodyScope ("é</body>".toList ++ ("<BODY".toList ++ (" class=x".toList ++ '>' ::
        ("İ;<body></body>;".toList ++ ("</Body".toList ++ "></html>".toList))))) =
        "İ;<body></body>;".toList ∧
      bodyScope ("é</body>".toList ++ ("<BODY".toList ++ (" class=x".toList ++ '>' ::
        "İ;<body>;".toList))) = "İ;<body>;".toList ∧
      bodyScope "é</body>".toList = "é</body>".toList := by
  obtain ⟨-, closed, endless, none⟩ := scope_of_tags
  refine ⟨?_, ?_, ?_⟩
  · apply closed <;> decide +kernel
  · apply endless <;> decide +kernel
  · apply none
    decide +kernel

end SiteWalk.Link

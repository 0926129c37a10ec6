import SiteWalk.Link.Resolve
import SiteWalk.Proofs.Text.Pieces
import SiteWalk.Settings.Basic

/-!
# Lists of words

A list of words is a text with the words in a row.  Commas and blanks may stand around them in
any number, and between two words there is a comma or a line end at least.  Reading finds the
words that a text is written with, and every text is written with some words, if only with none.

    wordList s = ws ↔ Listing (ws.map String.toList) s.toList                (wordList_eq_iff)
    (∀ w ∈ ws, IsWord w.toList) → wordList ("\n".intercalate ws) = ws   (wordList_intercalate)
-/

namespace SiteWalk

namespace Link

open Text

/-! ## What is written -/

/-- A comma or a line end, where a word is over. -/
def isDelimiter (c : Char) : Bool := c == ',' || c == '\n'

/-- What a list can hold: a text with something in it, without blanks at its ends and with no
delimiter inside. -/
structure IsWord (w : List Char) : Prop where
  some_ : w ≠ []
  trimmed : trim w = w
  whole : ∀ c ∈ w, isDelimiter c = false

instance (w : List Char) : Decidable (IsWord w) :=
  decidable_of_iff (w ≠ [] ∧ trim w = w ∧ w.all (!isDelimiter ·) = true)
    ⟨fun ⟨some_, trimmed, whole⟩ => ⟨some_, trimmed, by simpa using whole⟩,
      fun word => ⟨word.some_, word.trimmed, by simpa using word.whole⟩⟩

/-- Commas and blanks, of which line ends are some. -/
def IsPadding (s : List Char) : Prop := ∀ c ∈ s, c = ',' ∨ isBlank c = true

/-- Padding that holds two words apart. -/
def IsGap (s : List Char) : Prop := IsPadding s ∧ ∃ c ∈ s, isDelimiter c = true

/-- The words one behind the other, with a gap between neighbours. -/
inductive Row : List (List Char) → List Char → Prop
  | one {w} : IsWord w → Row [w] w
  | cons {w g ws s} : IsWord w → IsGap g → Row ws s → Row (w :: ws) (w ++ g ++ s)

/-- The text lists the words: they stand in a row with padding around, or there are none. -/
inductive Listing : List (List Char) → List Char → Prop
  | nothing {s} : IsPadding s → Listing [] s
  | row {a ws s b} : IsPadding a → Row ws s → IsPadding b → Listing ws (a ++ s ++ b)

variable {d : Char} {a b g s t w : List Char} {ws us vs : List (List Char)}

theorem isPadding_append : IsPadding (s ++ t) ↔ IsPadding s ∧ IsPadding t :=
  List.forall_mem_append

theorem isPadding_of_blank (blank : ∀ c ∈ s, isBlank c = true) : IsPadding s :=
  fun c hc => .inr (blank c hc)

/-- Padding without delimiters is blank. -/
theorem IsPadding.blank (padding : IsPadding s) (whole : ∀ c ∈ s, isDelimiter c = false) :
    ∀ c ∈ s, isBlank c = true := by
  intro c hc
  refine (padding c hc).resolve_left ?_
  rintro rfl
  exact absurd (whole _ hc) (by decide)

theorem IsPadding.append_delimiter (before : IsPadding a) (here : isDelimiter d = true)
    (behind : IsPadding b) : IsPadding (a ++ d :: b) := by
  have delimiter : d = ',' ∨ isBlank d = true := by
    rcases Bool.or_eq_true_iff.1 here with comma | lineEnd
    · exact .inl (eq_of_beq comma)
    · rw [eq_of_beq lineEnd]
      exact .inr (by decide)
  exact isPadding_append.2 ⟨before, List.forall_mem_cons.2 ⟨delimiter, behind⟩⟩

theorem IsPadding.gap (before : IsPadding a) (here : isDelimiter d = true) (behind : IsPadding b) :
    IsGap (a ++ d :: b) :=
  ⟨before.append_delimiter here behind, d, List.mem_append_cons_self, here⟩

theorem Row.isWord (row : Row ws s) : ∀ w ∈ ws, IsWord w := by
  induction row with
  | one word => exact List.forall_mem_singleton.2 word
  | cons word _ _ ih => exact List.forall_mem_cons.2 ⟨word, ih⟩

theorem Listing.isWord (h : Listing ws s) : ∀ w ∈ ws, IsWord w := by
  cases h with
  | nothing _ => exact List.forall_mem_nil _
  | row _ row _ => exact row.isWord

/-- Two rows with a gap between them are one row. -/
theorem Row.append (left : Row us s) (gap : IsGap g) (right : Row vs t) :
    Row (us ++ vs) (s ++ g ++ t) := by
  induction left with
  | one word => exact .cons word gap right
  | @cons w between us s word apart _ ih =>
    have whole : w ++ between ++ s ++ g ++ t = w ++ between ++ (s ++ g ++ t) := by
      simp only [List.append_assoc]
    rw [whole]
    exact .cons word apart ih

/-- Two texts with a delimiter between them list the words of both. -/
theorem Listing.append_delimiter (left : Listing us s) (here : isDelimiter d = true)
    (right : Listing vs t) : Listing (us ++ vs) (s ++ d :: t) := by
  -- what is around the delimiter goes to the padding outside, or makes a gap between two rows
  cases left with
  | nothing before =>
    cases right with
    | nothing behind => exact .nothing (before.append_delimiter here behind)
    | @row a _ s' b padding row behind =>
      have whole : s ++ d :: (a ++ s' ++ b) = (s ++ d :: a) ++ s' ++ b := by simp
      rw [whole]
      exact .row (before.append_delimiter here padding) row behind
  | @row a _ s b before row padding =>
    cases right with
    | nothing behind =>
      have whole : a ++ s ++ b ++ d :: t = a ++ s ++ (b ++ d :: t) := by simp
      rw [whole, List.append_nil]
      exact .row before row (padding.append_delimiter here behind)
    | @row a' _ s' b' padding' row' behind =>
      have whole : a ++ s ++ b ++ d :: (a' ++ s' ++ b') =
          a ++ (s ++ (b ++ d :: a') ++ s') ++ b' := by simp
      rw [whole]
      exact .row before (row.append (padding.gap here padding') row') behind

/-! ## What is read -/

/-- The words that are read from a text. -/
def readWords (s : List Char) : List (List Char) :=
  ((pieces isDelimiter s).map trim).filter (!·.isEmpty)

theorem wordList_eq_map (s : String) : wordList s = (readWords s.toList).map String.ofList := rfl

theorem readWords_append (here : isDelimiter d = true) (s t : List Char) :
    readWords (s ++ d :: t) = readWords s ++ readWords t := by
  unfold readWords
  rw [pieces_append_sep here, List.map_append, List.filter_append]

/-- A text without delimiters is one word or none. -/
theorem readWords_of_whole (whole : ∀ c ∈ s, isDelimiter c = false) :
    readWords s = [trim s].filter (!·.isEmpty) := by
  rw [readWords, pieces_of_clean whole, List.map_singleton]

theorem readWords_of_blank (whole : ∀ c ∈ s, isDelimiter c = false)
    (blank : ∀ c ∈ s, isBlank c = true) : readWords s = [] := by
  rw [readWords_of_whole whole, trim_of_blank blank]
  rfl

theorem readWords_of_word (word : IsWord w) : readWords w = [w] := by
  rw [readWords_of_whole word.whole, word.trimmed, List.filter_cons_of_pos (by simp [word.some_])]
  rfl

/-- Texts without delimiters give the same words if the same is left of them. -/
theorem readWords_congr {p q : List Char} (p_whole : ∀ c ∈ p, isDelimiter c = false)
    (q_whole : ∀ c ∈ q, isDelimiter c = false) (same : trim p = trim q) :
    readWords p = readWords q := by
  rw [readWords_of_whole p_whole, readWords_of_whole q_whole, same]

/-- Padding before a text makes no difference. -/
theorem readWords_padding_append (padding : IsPadding a) (s : List Char) :
    readWords (a ++ s) = readWords s := by
  induction a using piecewise isDelimiter with
  | piece a whole =>
    have blank := padding.blank whole
    -- the blanks belong to the first piece of what follows
    cases s using piecewise isDelimiter with
    | piece s clean =>
      exact readWords_congr (List.forall_mem_append.2 ⟨whole, clean⟩) clean
        (trim_blank_append blank s)
    | parted p d s clean here =>
      have first : readWords (a ++ p) = readWords p :=
        readWords_congr (List.forall_mem_append.2 ⟨whole, clean⟩) clean (trim_blank_append blank p)
      rw [← List.append_assoc, readWords_append here, readWords_append here, first]
  | parted p d a whole here ih =>
    obtain ⟨first, rest⟩ := isPadding_append.1 padding
    rw [List.append_assoc, List.cons_append, readWords_append here,
      readWords_of_blank whole (first.blank whole), ih (List.forall_mem_cons.1 rest).2]
    rfl

theorem readWords_of_padding (padding : IsPadding s) : readWords s = [] := by
  have alone := readWords_padding_append padding []
  rwa [List.append_nil] at alone

/-- Padding behind a text makes no difference. -/
theorem readWords_append_padding (padding : IsPadding b) (s : List Char) :
    readWords (s ++ b) = readWords s := by
  induction s using piecewise isDelimiter with
  | piece s clean =>
    cases b using piecewise isDelimiter with
    | piece b whole =>
      exact readWords_congr (List.forall_mem_append.2 ⟨clean, whole⟩) clean
        (trim_append_blank (padding.blank whole) s)
    | parted p d b whole here =>
      obtain ⟨first, rest⟩ := isPadding_append.1 padding
      have last : readWords (s ++ p) = readWords s :=
        readWords_congr (List.forall_mem_append.2 ⟨clean, whole⟩) clean
          (trim_append_blank (first.blank whole) s)
      rw [← List.append_assoc, readWords_append here, last,
        readWords_of_padding (List.forall_mem_cons.1 rest).2, List.append_nil]
  | parted p d s _ here ih =>
    rw [List.append_assoc, List.cons_append, readWords_append here, readWords_append here, ih]

/-- The words of a row are read one after the other. -/
theorem readWords_of_row (row : Row ws s) : readWords s = ws := by
  induction row with
  | one word => exact readWords_of_word word
  | @cons w g ws s word gap _ ih =>
    obtain ⟨padding, d, inside, here⟩ := gap
    -- the text is cut at one delimiter of the gap, and the rest of the gap is padding
    obtain ⟨f, h, rfl⟩ := List.append_of_mem inside
    obtain ⟨before, behind⟩ := isPadding_append.1 padding
    calc readWords (w ++ (f ++ d :: h) ++ s)
        = readWords (w ++ f ++ d :: (h ++ s)) := by simp
      _ = readWords (w ++ f) ++ readWords (h ++ s) := readWords_append here _ _
      _ = readWords w ++ readWords s := by
          rw [readWords_append_padding before,
            readWords_padding_append (List.forall_mem_cons.1 behind).2]
      _ = w :: ws := by rw [readWords_of_word word, ih, List.singleton_append]

theorem readWords_of_listing (h : Listing ws s) : readWords s = ws := by
  cases h with
  | nothing padding => exact readWords_of_padding padding
  | row before row behind =>
    rw [readWords_append_padding behind, readWords_padding_append before, readWords_of_row row]

/-- A text without delimiters lists what is left of it when it is trimmed, if anything is. -/
theorem listing_of_whole (whole : ∀ c ∈ s, isDelimiter c = false) : Listing (readWords s) s := by
  obtain ⟨a, b, before, behind, around⟩ := exists_around_trim s
  by_cases nothing : trim s = []
  · have blank : ∀ c ∈ s, isBlank c = true := by
      rw [around, nothing, List.append_nil]
      exact List.forall_mem_append.2 ⟨before, behind⟩
    rw [readWords_of_blank whole blank]
    exact .nothing (isPadding_of_blank blank)
  · have inside : ∀ c ∈ trim s, c ∈ s := by
      intro c hc
      rw [around]
      simp [hc]
    have word : IsWord (trim s) := ⟨nothing, trim_trim s, fun c hc => whole c (inside c hc)⟩
    have read : readWords s = [trim s] :=
      (readWords_congr whole word.whole word.trimmed.symm).trans (readWords_of_word word)
    have listing : Listing [trim s] (a ++ trim s ++ b) :=
      .row (isPadding_of_blank before) (.one word) (isPadding_of_blank behind)
    rw [read]
    rwa [← around] at listing

/-- Every text lists the words that are read from it. -/
theorem listing_readWords (s : List Char) : Listing (readWords s) s := by
  induction s using piecewise isDelimiter with
  | piece p whole => exact listing_of_whole whole
  | parted p d s whole here ih =>
    rw [readWords_append here]
    exact (listing_of_whole whole).append_delimiter here ih

/-- The words that are read are those that the text lists. -/
theorem readWords_eq_iff : readWords s = ws ↔ Listing ws s := by
  constructor
  · rintro rfl
    exact listing_readWords s
  · exact readWords_of_listing

/-! ## Lists of lines -/

theorem row_intercalate (some_ : ws ≠ []) (words : ∀ w ∈ ws, IsWord w) :
    Row ws (['\n'].intercalate ws) := by
  have gap : IsGap ['\n'] := by
    simp [IsGap, IsPadding, isDelimiter, isBlank]
  induction ws with
  | nil => exact absurd rfl some_
  | cons w ws ih =>
    obtain ⟨word, words⟩ := List.forall_mem_cons.1 words
    cases ws with
    | nil =>
      rw [List.intercalate_singleton]
      exact .one word
    | cons v ws =>
      rw [List.intercalate_cons_cons]
      exact .cons word gap (ih (List.cons_ne_nil v ws) words)

theorem listing_intercalate (words : ∀ w ∈ ws, IsWord w) : Listing ws (['\n'].intercalate ws) := by
  have nothing : IsPadding [] := List.forall_mem_nil _
  by_cases empty : ws = []
  · rw [empty]
    exact .nothing nothing
  · have listing : Listing ws ([] ++ ['\n'].intercalate ws ++ []) :=
      .row nothing (row_intercalate empty words) nothing
    rwa [List.nil_append, List.append_nil] at listing

section Strings

variable {s : String} {ws : List String}

theorem wordList_eq_iff : wordList s = ws ↔ Listing (ws.map String.toList) s.toList := by
  rw [← readWords_eq_iff, wordList_eq_map]
  constructor
  · rintro rfl
    simp
  · intro read
    rw [read]
    simp

/-- What is read from a list are words. -/
theorem isWord_of_mem_wordList : ∀ w ∈ wordList s, IsWord w.toList := by
  intro w hw
  exact (wordList_eq_iff.1 rfl).isWord _ (List.mem_map_of_mem hw)

/-- Words on lines of their own are read again. -/
theorem wordList_intercalate (words : ∀ w ∈ ws, IsWord w.toList) :
    wordList ("\n".intercalate ws) = ws := by
  rw [wordList_eq_iff, String.toList_intercalate]
  exact listing_intercalate (List.forall_mem_map.2 words)

end Strings

/-- **A text is read as the words that it lists, and as nothing else.**  Words in a row are read
in their order, whatever gaps of commas and blanks stand between them, as long as each has a
comma or a line end in it, and whatever padding stands around them; every text is such a list of
what is read from it; and what is read is read again from the lines that it makes. -/
theorem wordList_listing :
    (∀ (s : String) (ws : List String),
      wordList s = ws ↔ Listing (ws.map String.toList) s.toList) ∧
    ∀ s : String, wordList ("\n".intercalate (wordList s)) = wordList s :=
  ⟨fun _ _ => wordList_eq_iff, fun _ => wordList_intercalate isWord_of_mem_wordList⟩

example : wordList ",\u3000a b,\r\n\tc , d\n" = ["a b", "c", "d"] := by decide +kernel

end Link

/-- The pages that are left out by default are found in the default text. -/
theorem Settings.wordList_standard : Link.wordList Walk.standard.excludedPages = sidePages :=
  Link.wordList_intercalate (by decide +kernel)

end SiteWalk

import SiteWalk.Json.Printer
import SiteWalk.Json.Token
import SiteWalk.Proofs.Text.Digits

/-!
# What is written is lexed

The writers of numbers, words and quoted texts are undone by the lexer.  A text that spells
tokens does so whatever follows, if only the last token ends there (`Spells`), so the texts
of tokens can be put together.

    unescape (escape s) = some s                                        (unescape_escape)
    Spells (integer n) [numeral n]                                        (spells_integer)
    Spells (quoted s) [.text s]                                           (spells_quoted)
-/

namespace SiteWalk.Json

open Text

/-! ## Escapes -/

theorem unescape_cons {c : Char} (h : c ≠ '\\') (r : List Char) :
    unescape (c :: r) = (unescape r).map (c :: ·) := by
  conv => lhs; unfold unescape
  split
  · next heq => cases heq
  · next heq =>
    cases heq
    exact absurd rfl h
  · next heq =>
    cases heq
    exact absurd rfl h
  · next heq =>
    cases heq
    rw [if_neg h]

theorem unescape_short {c x : Char} (h : shortEscape? c = some x) (hu : c ≠ 'u') (r : List Char) :
    unescape ('\\' :: c :: r) = (unescape r).map (x :: ·) := by
  conv => lhs; unfold unescape
  split
  · next heq => cases heq
  · next heq =>
    cases heq
    exact absurd rfl hu
  · next heq =>
    cases heq
    rw [h]
  · next other heq =>
    cases heq
    exact (other _ _ rfl rfl).elim

/-- The number of a control character is written with four digits. -/
theorem unit?_control :
    ∀ n < 32, unit? '0' '0' (hexDigit (n / 16)) (hexDigit (n % 16)) = some n := by
  decide

theorem unescape_control {n : Nat} (h : n < 32) (r : List Char) :
    unescape ('\\' :: 'u' :: '0' :: '0' :: hexDigit (n / 16) :: hexDigit (n % 16) :: r) =
      (unescape r).map (Char.ofNat n :: ·) := by
  have low : isLowSurrogate n = false := by
    unfold isLowSurrogate
    simp
    omega
  have high : isHighSurrogate n = false := by
    unfold isHighSurrogate
    simp
    omega
  simp [unescape, unit?_control n h, low, high]

/-- A character is written with a letter, with its number or as itself. -/
inductive Escaped (c : Char) : List Char → Prop
  | short {x : Char} (letter : shortEscape? x = some c) (short : x ≠ 'u') : Escaped c ['\\', x]
  | control (low : c.toNat < 32) : Escaped c
      ['\\', 'u', '0', '0', hexDigit (c.toNat / 16), hexDigit (c.toNat % 16)]
  | plain (quote : c ≠ '"') (slash : c ≠ '\\') (printed : ¬ c.toNat < 32) : Escaped c [c]

theorem escaped (c : Char) : Escaped c (escapeChar c) := by
  unfold escapeChar
  split
  · next h => exact .short (by rw [h]; rfl) (by decide)
  split
  · next h => exact .short (by rw [h]; rfl) (by decide)
  split
  · next h => exact .short (by rw [h]; rfl) (by decide)
  split
  · next h => exact .short (by rw [h]; rfl) (by decide)
  split
  · next h => exact .short (by rw [h]; rfl) (by decide)
  split
  · next h => exact .short (by rw [h]; rfl) (by decide)
  split
  · next h => exact .short (by rw [h]; rfl) (by decide)
  split
  · next low => exact .control low
  · next quote slash _ _ _ _ _ printed => exact .plain quote slash printed

theorem unescape_escapeChar (c : Char) (r : List Char) :
    unescape (escapeChar c ++ r) = (unescape r).map (c :: ·) := by
  have h := escaped c
  generalize escapeChar c = s at h
  cases h with
  | short letter short => exact unescape_short letter short r
  | control low =>
    have h := unescape_control low r
    rwa [Char.ofNat_toNat] at h
  | plain _ slash _ => exact unescape_cons slash r

theorem unescape_escape (s : List Char) : unescape (escape s) = some s := by
  induction s with
  | nil => rfl
  | cons c s ih =>
    unfold escape at ih ⊢
    rw [List.flatMap_cons, unescape_escapeChar, ih]
    rfl

/-! ## Numbers -/

theorem cutDigits?_decimal (n : Nat) : cutDigits? (decimal n) = some (decimal n, []) := by
  obtain ⟨c, r, h, -⟩ := decimal_head n
  have all := decimal_digits n
  have taken : (decimal n).takeWhile isDigit = decimal n := by
    have h : (decimal n ++ []).takeWhile isDigit = _ := List.takeWhile_append_of_pos all
    simpa using h
  have rest : (decimal n).dropWhile isDigit = [] := by
    have h : (decimal n ++ []).dropWhile isDigit = _ := List.dropWhile_append_of_pos all
    simpa using h
  unfold cutDigits?
  rw [taken, rest, h]

/-- No number but zero starts with a zero. -/
theorem lone_zero (n : Nat) :
    ((decimal n).head? == some '0' && (decimal n).length != 1) = false := by
  obtain ⟨c, r, h, -, zero⟩ := decimal_head n
  rw [h, List.head?_cons]
  by_cases hc : c = '0'
  · rw [zero hc]
    exact Bool.and_false _
  · rw [beq_eq_false_iff_ne.2 (fun h => hc (Option.some.inj h))]
    rfl

/-- Different integers are written differently. -/
theorem integer_inj {m n : Int} (h : integer m = integer n) : m = n := by
  have signed : ∀ k r, decimal k ≠ '-' :: r := by
    intro k r hk
    exact absurd (decimal_digits k '-' (hk ▸ List.mem_cons_self)) (by decide)
  cases m with
  | ofNat j =>
    cases n with
    | ofNat k => rw [decimal_inj h]
    | negSucc k => exact absurd h (signed j _)
  | negSucc j =>
    cases n with
    | ofNat k => exact absurd h.symm (signed k _)
    | negSucc k => rw [Nat.succ.inj (decimal_inj (List.cons.inj h).2)]

/-- The token of an integer: one of more than 64 bits is kept as it is written. -/
def numeral (n : Int) : Token :=
  if Datum.isWord n then .int n else .decimal (String.ofList (integer n))

theorem number?_integer (n : Int) : number? (integer n) = some (numeral n) := by
  unfold numeral
  cases n with
  | ofNat k =>
    show number? (decimal k) = _
    unfold number?
    split
    next minus body heq =>
      obtain ⟨rfl, rfl⟩ : minus = false ∧ body = decimal k := by
        obtain ⟨c, r, hd, digit, -⟩ := decimal_head k
        rw [hd] at heq ⊢
        split at heq
        · next dash =>
          rw [(List.cons.inj dash).1] at digit
          exact absurd digit (by decide)
        · cases heq
          exact ⟨rfl, rfl⟩
      have text : integer (k : Int) = decimal k := rfl
      cases word : Datum.isWord (k : Int) <;>
        simp [cutDigits?_decimal, lone_zero, ofDigits_decimal, word, text]
  | negSucc k =>
    show number? ('-' :: decimal (k + 1)) = _
    unfold number?
    split
    next minus body heq =>
      obtain ⟨rfl, rfl⟩ : minus = true ∧ body = decimal (k + 1) := by
        split at heq
        · next dash =>
          cases dash
          cases heq
          exact ⟨rfl, rfl⟩
        · next other => exact (other _ rfl).elim
      have value : -((k : Int) + 1) = .negSucc k := by omega
      have positive : (k : Int) + 1 ≠ 0 := by omega
      have text : integer (.negSucc k) = '-' :: decimal (k + 1) := rfl
      cases word : Datum.isWord (.negSucc k) <;>
        simp [cutDigits?_decimal, lone_zero, ofDigits_decimal, value, positive, word, text]

/-! ## Tokens -/

/-- A number or word before the text ends there. -/
def Over (s : List Char) : Prop :=
  ∀ c r, s = c :: r → isNumberChar c = false ∧ isLowerAscii c = false

theorem over_nil : Over [] := by
  intro c r h
  cases h

theorem over_cons {c : Char} (number : isNumberChar c = false) (word : isLowerAscii c = false)
    (r : List Char) : Over (c :: r) := by
  intro c' r' h
  cases h
  exact ⟨number, word⟩

/-- The text is lexed to the tokens, whatever follows. -/
def Spells (s : List Char) (ts : List Token) : Prop :=
  ∀ rest, Over rest → tokensFrom .gap (s ++ rest) = (tokensFrom .gap rest).map (ts ++ ·)

theorem map_append_append (ts ts' : List Token) (x : Option (List Token)) :
    (x.map (ts' ++ ·)).map (ts ++ ·) = x.map (ts ++ ts' ++ ·) := by
  cases x with
  | none => rfl
  | some us => simp

theorem map_nil_append (x : Option (List Token)) : x.map ([] ++ ·) = x := by
  cases x <;> rfl

theorem tokensFrom_cons {inside next : Inside} {c : Char} {us : List Token}
    (h : advance inside c = some (us, next)) (r : List Char) :
    tokensFrom inside (c :: r) = (tokensFrom next r).map (us ++ ·) := by
  conv => lhs; unfold tokensFrom
  rw [h]

/-- A character that ends no token. -/
theorem tokensFrom_silent {inside next : Inside} {c : Char}
    (h : advance inside c = some ([], next)) (r : List Char) :
    tokensFrom inside (c :: r) = tokensFrom next r := by
  rw [tokensFrom_cons h, map_nil_append]

theorem spells_nil : Spells [] [] := by
  intro rest _
  rw [map_nil_append]
  rfl

theorem Spells.append {s s' : List Char} {ts ts' : List Token} (h : Spells s ts)
    (stops : ∀ rest, Over rest → Over (s' ++ rest)) (h' : Spells s' ts') :
    Spells (s ++ s') (ts ++ ts') := by
  intro rest hr
  rw [List.append_assoc, h _ (stops rest hr), h' _ hr, map_append_append]

/-- A character between tokens. -/
theorem Spells.cons {s : List Char} {ts us : List Token} {c : Char}
    (hc : enter c = some (us, .gap)) (h : Spells s ts) : Spells (c :: s) (us ++ ts) := by
  intro rest hr
  have gap : advance .gap c = some (us, .gap) := hc
  rw [List.cons_append, tokensFrom_cons gap, h _ hr, map_append_append]

/-! ## Words and numbers -/

/-- Inside of a number or a word: characters that `holds` lets in make it longer, and another
ends it. -/
structure Runs (inside : List Char → Inside) (holds : Char → Bool)
    (token? : List Char → Option Token) : Prop where
  longer : ∀ body c, holds c = true → advance (inside body) c = some ([], inside (c :: body))
  ended : ∀ body c t, holds c = false → token? body.reverse = some t →
    advance (inside body) c = (enter c).map fun x => (t :: x.1, x.2)
  left : ∀ body t, token? body.reverse = some t → leave (inside body) = some [t]
  stops : ∀ c, isNumberChar c = false → isLowerAscii c = false → holds c = false

theorem runs_number : Runs .number isNumberChar number? where
  longer body c h := by simp [advance, h]
  ended body c t h token := by
    simp only [advance, h, token]
    cases enter c <;> rfl
  left body t token := by simp [leave, token]
  stops c number _ := number

theorem runs_word : Runs .word isLowerAscii word? where
  longer body c h := by simp [advance, h]
  ended body c t h token := by
    simp only [advance, h, token]
    cases enter c <;> rfl
  left body t token := by simp [leave, token]
  stops c _ word := word

section

variable {inside : List Char → Inside} {holds : Char → Bool} {token? : List Char → Option Token}

theorem Runs.through (h : Runs inside holds token?) {s : List Char}
    (all : ∀ c ∈ s, holds c = true) (body rest : List Char) :
    tokensFrom (inside body) (s ++ rest) = tokensFrom (inside (s.reverse ++ body)) rest := by
  induction s generalizing body with
  | nil => rfl
  | cons c s ih =>
    rw [List.cons_append, tokensFrom_silent (h.longer body c (all c List.mem_cons_self)),
      ih fun c hc => all c (List.mem_cons_of_mem _ hc)]
    simp

/-- What is over is a token. -/
theorem Runs.finish (h : Runs inside holds token?) {body rest : List Char} {t : Token}
    (token : token? body.reverse = some t) (hr : Over rest) :
    tokensFrom (inside body) rest = (tokensFrom .gap rest).map ([t] ++ ·) := by
  cases rest with
  | nil => exact h.left body t token
  | cons c r =>
    obtain ⟨number, word⟩ := hr c r rfl
    have hc := h.ended body c t (h.stops c number word) token
    have gap : advance .gap c = enter c := rfl
    cases he : enter c with
    | none =>
      rw [he] at hc gap
      unfold tokensFrom
      rw [hc, gap]
      rfl
    | some x =>
      rw [he] at hc gap
      rw [tokensFrom_cons hc, tokensFrom_cons gap, map_append_append]
      rfl

/-- A number or a word is lexed as a whole. -/
theorem Runs.spells (h : Runs inside holds token?) {c : Char} {s : List Char} {t : Token}
    (first : enter c = some ([], inside [c])) (all : ∀ x ∈ s, holds x = true)
    (token : token? (c :: s) = some t) : Spells (c :: s) [t] := by
  intro rest hr
  have gap : advance .gap c = some ([], inside [c]) := first
  rw [List.cons_append, tokensFrom_silent gap, h.through all]
  refine h.finish ?_ hr
  rw [List.reverse_append, List.reverse_reverse]
  exact token

end

theorem not_gap_of_digit {c : Char} (h : isDigit c = true) : isGap c = false ∧ c ≠ '"' := by
  constructor
  · cases hg : isGap c with
    | false => rfl
    | true =>
      unfold isGap at hg
      simp only [Bool.or_eq_true, beq_iff_eq] at hg
      rcases hg with ((rfl | rfl) | rfl) | rfl <;> exact absurd h (by decide)
  · rintro rfl
    exact absurd h (by decide)

theorem enter_digit {c : Char} (h : isDigit c = true) : enter c = some ([], .number [c]) := by
  obtain ⟨gap, quote⟩ := not_gap_of_digit h
  simp [enter, gap, quote, h]

theorem isNumberChar_of_digit {c : Char} (h : isDigit c = true) : isNumberChar c = true := by
  simp [isNumberChar, h]

theorem spells_integer (n : Int) : Spells (integer n) [numeral n] := by
  have token := number?_integer n
  cases n with
  | ofNat k =>
    obtain ⟨c, r, hd, digit, -⟩ := decimal_head k
    have digits := decimal_digits k
    rw [hd] at digits
    have text : integer (.ofNat k) = c :: r := hd
    rw [text] at token ⊢
    refine runs_number.spells (enter_digit digit) ?_ token
    intro x hx
    exact isNumberChar_of_digit (digits x (List.mem_cons_of_mem _ hx))
  | negSucc k =>
    refine runs_number.spells (c := '-') rfl ?_ token
    intro x hx
    exact isNumberChar_of_digit (decimal_digits _ x hx)

/-! ## Quoted text -/

/-- A character that stands for itself. -/
theorem advance_plain {c : Char} (quote : c ≠ '"') (slash : c ≠ '\\') (printed : ¬ c.toNat < 32)
    (body : List Char) : advance (.text body false) c = some ([], .text (c :: body) false) := by
  simp [advance, quote, slash, printed]

theorem advance_slash (body : List Char) :
    advance (.text body false) '\\' = some ([], .text ('\\' :: body) true) := by
  simp [advance]

theorem tokensFrom_pair (c : Char) (body rest : List Char) :
    tokensFrom (.text body false) ('\\' :: c :: rest) =
      tokensFrom (.text (c :: '\\' :: body) false) rest := by
  have second : advance (.text ('\\' :: body) true) c =
      some ([], .text (c :: '\\' :: body) false) := rfl
  rw [tokensFrom_silent (advance_slash body), tokensFrom_silent second]

theorem hexDigit_plain :
    ∀ n < 16, hexDigit n ≠ '"' ∧ hexDigit n ≠ '\\' ∧ ¬ (hexDigit n).toNat < 32 := by
  decide

theorem tokensFrom_escapeChar (c : Char) (body rest : List Char) :
    tokensFrom (.text body false) (escapeChar c ++ rest) =
      tokensFrom (.text ((escapeChar c).reverse ++ body) false) rest := by
  have h := escaped c
  generalize escapeChar c = s at h
  cases h with
  | short => exact tokensFrom_pair _ body rest
  | control low =>
    obtain ⟨q, s, p⟩ := hexDigit_plain (c.toNat / 16) (by omega)
    obtain ⟨q', s', p'⟩ := hexDigit_plain (c.toNat % 16) (by omega)
    have zero : ∀ body, advance (.text body false) '0' = some ([], .text ('0' :: body) false) :=
      advance_plain (by decide) (by decide) (by decide)
    show tokensFrom (.text body false) ('\\' :: 'u' :: '0' :: '0' :: hexDigit (c.toNat / 16) ::
      hexDigit (c.toNat % 16) :: rest) = _
    rw [tokensFrom_pair, tokensFrom_silent (zero _), tokensFrom_silent (zero _),
      tokensFrom_silent (advance_plain q s p _), tokensFrom_silent (advance_plain q' s' p' _)]
    rfl
  | plain quote slash printed =>
    exact tokensFrom_silent (advance_plain quote slash printed body) rest

theorem tokensFrom_escape (s body rest : List Char) :
    tokensFrom (.text body false) (escape s ++ rest) =
      tokensFrom (.text ((escape s).reverse ++ body) false) rest := by
  induction s generalizing body with
  | nil => rfl
  | cons c s ih =>
    unfold escape at ih ⊢
    rw [List.flatMap_cons, List.append_assoc, tokensFrom_escapeChar, ih]
    simp

theorem spells_quoted (s : String) : Spells (quoted s) [.text s] := by
  intro rest _
  have opened : advance .gap '"' = some ([], .text [] false) := rfl
  have closed : advance (.text ((escape s.toList).reverse ++ []) false) '"' =
      some ([.text s], .gap) := by
    simp [advance, unescape_escape]
  unfold quoted
  rw [List.cons_append, List.cons_append, List.append_assoc, tokensFrom_silent opened,
    tokensFrom_escape, List.singleton_append, tokensFrom_cons closed]

end SiteWalk.Json

import SiteWalk.Proofs.Url.Host

/-!
# Hosts that are numbers

What is written of an IPv4 address or of an IPv6 address is read as this address, and only numbers
in range are read.  In the text of an IPv6 address a gap stands for the longest run of zeros, and
the first two colons in a row are those of the gap.

    n < 4294967296 → ipv4? (ipv4Text n) = some n                            (ipv4?_ipv4Text)
    gs.length = 8 → Short gs → ipv6? (ipv6Text gs) = some gs                (ipv6?_ipv6Text)
    ipv6? s = some gs → gs.length = 8 ∧ Short gs                                  (of_ipv6?)
-/

namespace SiteWalk.Url.Host

open Text

variable {c : Char} {s : List Char}

/-! ## IPv4 -/

theorem ipv4Part?_decimal (n : Nat) : ipv4Part? (decimal n) = some n := by
  have digits : ((decimal n).mapM fun c => (hexValue? c).filter (· < 10)) =
      some (toDigits 10 n) := by
    refine mapM_map_of_forall fun d hd => ?_
    have all : ∀ d < 10, (hexValue? (Char.ofNat (48 + d))).filter (· < 10) = some d := by decide
    exact all d (lt_of_mem_toDigits (by decide) hd)
  obtain ⟨c, r, shape, -, zero⟩ := decimal_head n
  unfold ipv4Part?
  rw [shape] at digits ⊢
  split
  · next none => cases none
  · next same =>
    cases same
    cases zero rfl
  · next same =>
    cases same
    cases zero rfl
  · next same =>
    cases same
    cases zero rfl
  · dsimp only
    rw [digits, Option.map_some, ofDigits_toDigits (by decide)]

theorem dot_not_mem_decimal (n : Nat) : '.' ∉ decimal n := by
  intro dot
  cases decimal_digits n _ dot

/-- The bytes of an address, most significant first. -/
def ipv4Bytes (n : Nat) : List Nat := [n / 16777216, n / 65536 % 256, n / 256 % 256, n % 256]

theorem pieces_ipv4Text (n : Nat) :
    pieces (· == '.') (ipv4Text n) = (ipv4Bytes n).map decimal := by
  refine pieces_join (fun p hp => ?_) (List.cons_ne_nil _ _)
  obtain ⟨k, -, rfl⟩ := List.mem_map.1 hp
  exact dot_not_mem_decimal k

theorem labels_ipv4Text (n : Nat) : labels (ipv4Text n) = (ipv4Bytes n).map decimal := by
  have last : ((ipv4Bytes n).map decimal).getLast? = some (decimal (n % 256)) := rfl
  obtain ⟨c, r, shape, -⟩ := decimal_head (n % 256)
  unfold labels
  dsimp only
  rw [pieces_ipv4Text, last, shape]
  rfl

theorem endsInNumber_ipv4Text (n : Nat) : endsInNumber (ipv4Text n) = true := by
  have last : ((ipv4Bytes n).map decimal).getLast? = some (decimal (n % 256)) := rfl
  unfold endsInNumber
  rw [labels_ipv4Text, last]
  dsimp only
  rw [ipv4Part?_decimal]
  exact Bool.or_true _

theorem ipv4Text_ne_nil (n : Nat) : ipv4Text n ≠ [] := by
  intro none
  have := endsInNumber_ipv4Text n
  rw [none] at this
  cases this

/-- **An IPv4 address is read back.** -/
theorem ipv4?_ipv4Text {n : Nat} (small : n < 4294967296) : ipv4? (ipv4Text n) = some n := by
  have parts : (labels (ipv4Text n)).mapM ipv4Part? = some (ipv4Bytes n) := by
    rw [labels_ipv4Text]
    exact mapM_map_of_forall fun k _ => ipv4Part?_decimal k
  have bytes : [n / 16777216, n / 65536 % 256, n / 256 % 256].any (· > 255) = false := by
    simp
    omega
  have last : ¬ n % 256 ≥ Nat.pow 256 1 := Nat.not_le.2 (Nat.mod_lt n (by decide))
  have value : ofDigits 256 [n / 16777216, n / 65536 % 256, n / 256 % 256] * Nat.pow 256 1 +
      n % 256 = n := by
    show (((0 * 256 + n / 16777216) * 256 + n / 65536 % 256) * 256 + n / 256 % 256) * 256 +
      n % 256 = n
    omega
  have four : (labels (ipv4Text n)).mapM ipv4Part? = some ([n / 16777216, n / 65536 % 256,
      n / 256 % 256] ++ [n % 256]) := parts
  unfold ipv4?
  rw [four, Option.bind_eq_bind, Option.bind_some, List.getLast?_concat, Option.bind_eq_bind,
    Option.bind_some]
  dsimp only
  rw [List.dropLast_concat, bytes]
  exact (if_neg (by simpa using last)).trans (congrArg some value)

theorem lt_of_ipv4? {n : Nat} (read : ipv4? s = some n) : n < 4294967296 := by
  unfold ipv4? at read
  obtain ⟨parts, -, read⟩ := Option.bind_eq_some_iff.1 read
  obtain ⟨last, -, read⟩ := Option.bind_eq_some_iff.1 read
  dsimp only at read
  split at read
  · cases read
  · next fits =>
    cases read
    simp only [Bool.or_eq_true, decide_eq_true_eq, not_or, Nat.not_lt, ge_iff_le, Nat.not_le,
      Bool.not_eq_true, List.any_eq_false] at fits
    obtain ⟨⟨few, bytes⟩, small⟩ := fits
    generalize parts.dropLast = front at few bytes small ⊢
    have high : ofDigits 256 front < Nat.pow 256 front.length :=
      ofDigits_lt fun d hd => Nat.lt_succ_of_le (bytes d hd)
    calc ofDigits 256 front * Nat.pow 256 (4 - front.length) + last
        < (ofDigits 256 front + 1) * Nat.pow 256 (4 - front.length) := by
          rw [Nat.add_mul, Nat.one_mul]
          exact Nat.add_lt_add_left small _
      _ ≤ Nat.pow 256 front.length * Nat.pow 256 (4 - front.length) :=
          Nat.mul_le_mul_right _ high
      _ = Nat.pow 256 4 := by
          rw [Nat.pow_eq, Nat.pow_eq, ← Nat.pow_add, Nat.add_sub_cancel' (by omega)]

/-! ## IPv6 -/

/-- The groups have 16 bits each. -/
def Short (gs : List Nat) : Prop := ∀ g ∈ gs, g < 65536

theorem group?_groupText {n : Nat} (short : n < 65536) : group? (groupText n) = some n := by
  have digits : (groupText n).mapM hexValue? = some (toDigits 16 n) := by
    refine mapM_map_of_forall fun d hd => ?_
    have all : ∀ d < 16, hexValue? (hexDigit d) = some d := by decide
    exact all d (lt_of_mem_toDigits (by decide) hd)
  have few : (groupText n).length ≤ 4 := by
    rw [groupText, List.length_map]
    exact length_toDigits_le short
  have some_ : (groupText n).isEmpty = false := by
    rw [groupText, List.isEmpty_map, List.isEmpty_eq_false_iff]
    exact toDigits_ne_nil 16 n
  unfold group?
  rw [some_, digits, if_neg (by simpa using few), Option.map_some, ofDigits_toDigits (by decide)]

theorem not_mem_groupText {n : Nat} (other : isAlnum c = false) : c ∉ groupText n := by
  intro there
  rw [isAlnum_of_mem_groupText there] at other
  cases other

theorem dot_not_mem_groupText (n : Nat) : '.' ∉ groupText n := not_mem_groupText (by decide)

theorem colon_not_mem_groupText (n : Nat) : ':' ∉ groupText n := not_mem_groupText (by decide)

theorem groupText_cons (n : Nat) : ∃ d r, groupText n = d :: r ∧ d ≠ ':' := by
  cases shape : groupText n with
  | nil => exact absurd (List.map_eq_nil_iff.1 shape) (toDigits_ne_nil 16 n)
  | cons d r =>
    refine ⟨d, r, rfl, ?_⟩
    rintro rfl
    exact colon_not_mem_groupText n (shape ▸ List.mem_cons_self)

theorem groupsText_cons (g : Nat) (gs : List Nat) :
    ∃ d r, groupsText (g :: gs) = d :: r ∧ d ≠ ':' := by
  obtain ⟨d, r, shape, other⟩ := groupText_cons g
  cases gs with
  | nil => exact ⟨d, r, shape, other⟩
  | cons h gs =>
    refine ⟨d, r ++ [':'] ++ groupsText (h :: gs), ?_, other⟩
    show groupText g ++ [':'] ++ groupsText (h :: gs) = _
    rw [shape]
    rfl

/-- The groups on one side of a gap are read back. -/
theorem groups?_groupsText {gs : List Nat} (short : Short gs) (mayDot : Bool) :
    groups? mayDot (groupsText gs) = some gs := by
  cases gs with
  | nil => rfl
  | cons g gs =>
    have read : ((g :: gs).map groupText).mapM group? = some (g :: gs) :=
      mapM_map_of_forall fun n hn => group?_groupText (short n hn)
    have written {p : List Char} (hp : p ∈ (g :: gs).map groupText) : ∃ n, p = groupText n := by
      obtain ⟨n, -, rfl⟩ := List.mem_map.1 hp
      exact ⟨n, rfl⟩
    have cut : pieces (· == ':') (groupsText (g :: gs)) = (g :: gs).map groupText := by
      refine pieces_join (fun p hp => ?_) (List.cons_ne_nil _ _)
      obtain ⟨n, rfl⟩ := written hp
      exact colon_not_mem_groupText n
    have undotted : (((g :: gs).map groupText).getLast?.getD []).contains '.' = false := by
      rw [List.map_cons, List.getLast?_eq_some_getLast (List.cons_ne_nil _ _), Option.getD_some]
      obtain ⟨n, last⟩ := written (List.getLast_mem (List.cons_ne_nil _ _))
      rw [last, Bool.eq_false_iff]
      exact fun dot => dot_not_mem_groupText n (List.contains_iff_mem.1 dot)
    obtain ⟨d, r, shape, -⟩ := groupsText_cons g gs
    have some_ : (groupsText (g :: gs)).isEmpty = false := by rw [shape]; rfl
    unfold groups?
    rw [some_, cut]
    dsimp only
    rw [undotted, Bool.and_false]
    exact read

/-! The first two colons in a row are those of the gap. -/

theorem cutGap_cons (apart : c = ':' → s.head? ≠ some ':') :
    cutGap (c :: s) = (cutGap s).map fun parts => (c :: parts.1, parts.2) := by
  conv => lhs; unfold cutGap
  split
  · next same =>
    cases same
    exact absurd rfl (apart rfl)
  · next same =>
    cases same
    rfl
  · next none => cases none

theorem cutGap_append {t : List Char} (clean : ':' ∉ t) (s : List Char) :
    cutGap (t ++ s) = (cutGap s).map fun parts => (t ++ parts.1, parts.2) := by
  induction t with
  | nil => exact Option.map_id'.symm
  | cons d t ih =>
    have other : d ≠ ':' := fun same => clean (same ▸ List.mem_cons_self)
    rw [List.cons_append, cutGap_cons (absurd · other),
      ih fun there => clean (List.mem_cons_of_mem d there), Option.map_map]
    rfl

theorem cutGap_groupsText (gs : List Nat) (s : List Char) :
    cutGap (groupsText gs ++ s) =
      (cutGap s).map fun parts => (groupsText gs ++ parts.1, parts.2) := by
  induction gs with
  | nil => exact Option.map_id'.symm
  | cons g gs ih =>
    cases gs with
    | nil => exact cutGap_append (colon_not_mem_groupText g) s
    | cons h gs =>
      obtain ⟨d, r, shape, other⟩ := groupsText_cons h gs
      have apart : (groupsText (h :: gs) ++ s).head? ≠ some ':' := by
        rw [shape]
        exact fun same => other (Option.some.inj same)
      have text : groupsText (g :: h :: gs) = groupText g ++ ':' :: groupsText (h :: gs) :=
        List.append_assoc _ _ _
      rw [text, List.append_assoc, cutGap_append (colon_not_mem_groupText g), List.cons_append,
        cutGap_cons fun _ => apart, ih, Option.map_map, Option.map_map]
      refine congrArg (Option.map · _) (funext fun parts => ?_)
      simp

/-! The gap takes the place of zeros. -/

theorem zeros_spec (gs : List Nat) : gs = List.replicate (zeros gs) 0 ++ gs.drop (zeros gs) := by
  have whole := List.takeWhile_append_dropWhile (p := (· == 0)) (l := gs)
  have all : gs.takeWhile (· == 0) = List.replicate (zeros gs) 0 := by
    refine List.eq_replicate_iff.2 ⟨rfl, fun g hg => ?_⟩
    have zero := List.mem_takeWhile_imp (p := (· == 0)) hg
    exact beq_iff_eq.1 zero
  have rest : gs.drop (zeros gs) = gs.dropWhile (· == 0) := by
    calc gs.drop (zeros gs)
        = (gs.takeWhile (· == 0) ++ gs.dropWhile (· == 0)).drop (zeros gs) := by rw [whole]
      _ = gs.dropWhile (· == 0) := List.drop_left
  rw [rest, ← all, whole]

theorem longestGap_spec {gs : List Nat} {i n : Nat} (h : longestGap gs = some (i, n)) :
    i < gs.length ∧ n = zeros (gs.drop i) ∧ 1 < n := by
  unfold longestGap at h
  revert i n
  refine List.foldlRecOn (motive := fun best : Option (Nat × Nat) => ∀ {i n}, best = some (i, n) →
    i < gs.length ∧ n = zeros (gs.drop i) ∧ 1 < n) _ _ (fun none => by cases none) ?_
  intro best good j hj i n h
  dsimp only at h
  split at h
  · next more =>
    cases h
    refine ⟨List.mem_range.1 hj, rfl, ?_⟩
    cases best with
    | none => exact more
    | some b => exact Nat.lt_trans (good rfl).2.2 more
  · exact good h

/-- The groups before the gap, the zeros that it stands for, and the groups behind it. -/
theorem split_at_gap {gs : List Nat} {i n : Nat} (h : longestGap gs = some (i, n)) :
    gs = gs.take i ++ List.replicate n 0 ++ gs.drop (i + n) := by
  obtain ⟨-, run, -⟩ := longestGap_spec h
  have zeros := zeros_spec (gs.drop i)
  rw [← run, List.drop_drop] at zeros
  rw [List.append_assoc, ← zeros, List.take_append_drop]

/-- **An IPv6 address is read back.** -/
theorem ipv6?_ipv6Text {gs : List Nat} (eight : gs.length = 8) (short : Short gs) :
    ipv6? (ipv6Text gs) = some gs := by
  unfold ipv6Text
  cases gap : longestGap gs with
  | none =>
    have whole : cutGap (groupsText gs) = none := by
      have := cutGap_groupsText gs []
      rwa [List.append_nil] at this
    show ipv6? (groupsText gs) = some gs
    unfold ipv6?
    rw [whole]
    dsimp only
    rw [groups?_groupsText short, Option.bind_eq_bind, Option.bind_some, eight]
    rfl
  | some parts =>
    obtain ⟨i, n⟩ := parts
    obtain ⟨inside, -, two⟩ := longestGap_spec gap
    have front : Short (gs.take i) := fun g hg => short g (List.mem_of_mem_take hg)
    have back : Short (gs.drop (i + n)) := fun g hg => short g (List.mem_of_mem_drop hg)
    have split := split_at_gap gap
    have lengths := congrArg List.length split
    rw [List.length_append, List.length_append, List.length_take, List.length_replicate,
      List.length_drop] at lengths
    have filled : 8 - (gs.take i).length - (gs.drop (i + n)).length = n := by
      rw [List.length_take, List.length_drop]
      omega
    have few : (gs.take i).length + (gs.drop (i + n)).length ≤ 7 := by
      rw [List.length_take, List.length_drop]
      omega
    have cut : cutGap (groupsText (gs.take i) ++ ':' :: ':' :: groupsText (gs.drop (i + n))) =
        some (groupsText (gs.take i), groupsText (gs.drop (i + n))) := by
      rw [cutGap_groupsText]
      show some (groupsText (gs.take i) ++ [], groupsText (gs.drop (i + n))) = _
      rw [List.append_nil]
    show ipv6? (groupsText (gs.take i) ++ ':' :: ':' :: groupsText (gs.drop (i + n))) = some gs
    unfold ipv6?
    rw [cut]
    dsimp only
    rw [groups?_groupsText front, Option.bind_eq_bind, Option.bind_some, groups?_groupsText back,
      Option.bind_some, if_pos few, filled, ← split]

theorem hexValue?_lt {v : Nat} (h : hexValue? c = some v) : v < 16 := by
  have upTo {a b : Char} (h : (a ≤ c && c ≤ b) = true) : c.toNat ≤ b.toNat :=
    of_decide_eq_true (Bool.and_eq_true_iff.1 h).2
  unfold hexValue? at h
  split at h
  · next digit =>
    have : c.toNat ≤ 57 := upTo digit
    cases h
    omega
  split at h
  · next small =>
    have : c.toNat ≤ 102 := upTo small
    cases h
    omega
  split at h
  · next large =>
    have : c.toNat ≤ 70 := upTo large
    cases h
    omega
  · cases h

theorem lt_of_group? {n : Nat} (read : group? s = some n) : n < 65536 := by
  unfold group? at read
  split at read
  · cases read
  · next few =>
    obtain ⟨ds, digits, rfl⟩ := Option.map_eq_some_iff.1 read
    rw [Bool.or_eq_true, decide_eq_true_eq, not_or, Nat.not_lt] at few
    have small : ∀ d ∈ ds, d < 16 := by
      intro d hd
      obtain ⟨c, -, value⟩ := exists_of_mem_mapM digits hd
      exact hexValue?_lt value
    calc ofDigits 16 ds < Nat.pow 16 ds.length := ofDigits_lt small
      _ ≤ Nat.pow 16 4 := Nat.pow_le_pow_right (by decide) (length_of_mapM digits ▸ few.2)

theorem short_of_mapM {ps : List (List Char)} {gs : List Nat} (read : ps.mapM group? = some gs) :
    Short gs := by
  intro g hg
  obtain ⟨p, -, read⟩ := exists_of_mem_mapM read hg
  exact lt_of_group? read

theorem short_of_dotted? {gs : List Nat} (read : dotted? s = some gs) : Short gs := by
  unfold dotted? at read
  obtain ⟨ns, numbers, read⟩ := Option.bind_eq_some_iff.1 read
  have bytes : ∀ n ∈ ns, n ≤ 255 := by
    intro n hn
    obtain ⟨p, -, number⟩ := exists_of_mem_mapM numbers hn
    obtain ⟨m, -, number⟩ := Option.bind_eq_some_iff.1 number
    split at number
    · next fits =>
      cases number
      exact of_decide_eq_true (Bool.and_eq_true_iff.1 fits).1
    · cases number
  split at read
  · cases read
    simp only [List.forall_mem_cons] at bytes
    obtain ⟨a, b, c, d, -⟩ := bytes
    intro g hg
    rcases List.mem_cons.1 hg with rfl | hg
    · omega
    · rw [List.mem_singleton.1 hg]
      omega
  · cases read

theorem Short.append {a b : List Nat} (ha : Short a) (hb : Short b) : Short (a ++ b) :=
  List.forall_mem_append.2 ⟨ha, hb⟩

theorem short_of_groups? {mayDot : Bool} {gs : List Nat} (read : groups? mayDot s = some gs) :
    Short gs := by
  unfold groups? at read
  split at read
  · cases read
    exact List.forall_mem_nil _
  dsimp only at read
  split at read
  · obtain ⟨front, readFront, read⟩ := Option.bind_eq_some_iff.1 read
    obtain ⟨back, readBack, read⟩ := Option.bind_eq_some_iff.1 read
    cases read
    exact (short_of_mapM readFront).append (short_of_dotted? readBack)
  · exact short_of_mapM read

theorem of_ipv6? {gs : List Nat} (read : ipv6? s = some gs) : gs.length = 8 ∧ Short gs := by
  unfold ipv6? at read
  split at read
  · obtain ⟨whole, readWhole, read⟩ := Option.bind_eq_some_iff.1 read
    split at read
    · next eight =>
      cases read
      exact ⟨beq_iff_eq.1 eight, short_of_groups? readWhole⟩
    · cases read
  · obtain ⟨a, readA, read⟩ := Option.bind_eq_some_iff.1 read
    obtain ⟨b, readB, read⟩ := Option.bind_eq_some_iff.1 read
    split at read
    · next few =>
      cases read
      have zeros : Short (List.replicate (8 - a.length - b.length) 0) := by
        intro g hg
        rw [List.eq_of_mem_replicate hg]
        decide
      refine ⟨?_, ((short_of_groups? readA).append zeros).append (short_of_groups? readB)⟩
      rw [List.length_append, List.length_append, List.length_replicate]
      omega
    · cases read

end SiteWalk.Url.Host

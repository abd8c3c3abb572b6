import LifeStory.Proofs.Json.Spelling

/-!
# Texts of numbers

What a number looks like in data (`IsNumber`), that the reader gets through each such text, and that
integers and floating-point numbers are written so. An integer that a 64-bit word holds is read as
itself; a floating-point number is read as something, which need not be itself.

    IsNumber cs → ∃ l, PartialNumber.read? (signed negative cs) = some l      (exists_read?_signed)
    PartialNumber.read? cs = some l → Spells cs (.number l)                        (spells_number)
    -2^63 ≤ n → n < 2^64 → ∃ l, Spells (integer n) (.number l) ∧ l.toDatum = .integer n
                                                                          (exists_spells_integer)
-/

namespace LifeStory

namespace Json

/-! ## Digits -/

theorem isDigit_iff {c : Char} :
    c.isDigit = true ↔ c ∈ ['0', '1', '2', '3', '4', '5', '6', '7', '8', '9'] := by
  constructor
  · intro h
    obtain ⟨low, high⟩ := Char.isDigit_iff_toNat.1 h
    have hc : ∃ n, n < 10 ∧ c = Char.ofNat (48 + n) := by
      refine ⟨c.toNat - 48, ?_, ?_⟩
      · change c.toNat ≤ 57 at high
        omega
      · change 48 ≤ c.toNat at low
        rw [Nat.add_sub_cancel' low, Char.ofNat_toNat]
    obtain ⟨n, hn, rfl⟩ := hc
    clear h low high
    revert n
    decide
  · intro h
    simp only [List.mem_cons, List.not_mem_nil, or_false] at h
    rcases h with rfl | rfl | rfl | rfl | rfl | rfl | rfl | rfl | rfl | rfl <;> rfl

/-- The value of a digit. -/
def digitValue (c : Char) : Nat := c.toNat - '0'.toNat

theorem digit?_of_isDigit {c : Char} (h : c.isDigit = true) :
    Text.digit? c = some (digitValue c) := by
  simp [Text.digit?, h, digitValue]

/-- Is there nothing but digits? -/
def AllDigits (cs : List Char) : Prop := ∀ c ∈ cs, c.isDigit = true

namespace AllDigits

variable {cs ds : List Char}

theorem head {c : Char} (h : AllDigits (c :: cs)) : c.isDigit = true := h c List.mem_cons_self

theorem tail {c : Char} (h : AllDigits (c :: cs)) : AllDigits cs :=
  fun d hd => h d (List.mem_cons_of_mem c hd)

theorem append (h : AllDigits cs) (h' : AllDigits ds) : AllDigits (cs ++ ds) := by
  intro d hd
  rcases List.mem_append.1 hd with hd | hd
  · exact h d hd
  · exact h' d hd

theorem take (h : AllDigits cs) (n : Nat) : AllDigits (cs.take n) :=
  fun d hd => h d (List.mem_of_mem_take hd)

theorem drop (h : AllDigits cs) (n : Nat) : AllDigits (cs.drop n) :=
  fun d hd => h d (List.mem_of_mem_drop hd)

theorem zeros (n : Nat) : AllDigits (List.replicate n '0') := by
  intro d hd
  rw [List.eq_of_mem_replicate hd]
  rfl

end AllDigits

/-- A whole number without sign: digits, of which the first is zero only if it is the only one. -/
inductive IsWhole : List Char → Prop
  | zero : IsWhole ['0']
  | nonzero {c : Char} {cs : List Char} (digit : c.isDigit = true) (positive : c ≠ '0')
      (digits : AllDigits cs) : IsWhole (c :: cs)

namespace IsWhole

variable {cs : List Char}

theorem ne_nil (h : IsWhole cs) : cs ≠ [] := by
  cases h <;> simp

theorem allDigits (h : IsWhole cs) : AllDigits cs := by
  intro d hd
  cases h with
  | zero =>
    rw [List.mem_singleton.1 hd]
    rfl
  | nonzero digit positive digits =>
    rcases List.mem_cons.1 hd with rfl | hd
    · exact digit
    · exact digits d hd

theorem take (h : IsWhole cs) {n : Nat} (hn : 0 < n) : IsWhole (cs.take n) := by
  obtain ⟨n, rfl⟩ := Nat.exists_eq_add_one.2 hn
  cases h with
  | zero =>
    rw [List.take_succ_cons, List.take_nil]
    exact .zero
  | nonzero digit positive digits => exact .nonzero digit positive (digits.take n)

end IsWhole

/-- A number without sign and exponent. -/
inductive IsPlain : List Char → Prop
  | whole {cs : List Char} (whole : IsWhole cs) : IsPlain cs
  | fraction {cs fs : List Char} (whole : IsWhole cs) (nonempty : fs ≠ [])
      (digits : AllDigits fs) : IsPlain (cs ++ '.' :: fs)

/-- A number without sign. -/
inductive IsNumber : List Char → Prop
  | plain {cs : List Char} (plain : IsPlain cs) : IsNumber cs
  | exponent {cs xs : List Char} {sign : Char} (plain : IsPlain cs)
      (signed : sign = '+' ∨ sign = '-') (nonempty : xs ≠ []) (digits : AllDigits xs) :
      IsNumber (cs ++ 'e' :: sign :: xs)

/-- A number with its sign in front, if it has one. -/
def signed (negative : Bool) (cs : List Char) : List Char := if negative then '-' :: cs else cs

/-! ## Numbers as they are read -/

namespace PartialNumber

/-- The number with more characters. -/
def extendAll? (n : PartialNumber) (cs : List Char) : Option PartialNumber := cs.foldlM extend? n

theorem extendAll?_append (n : PartialNumber) (cs ds : List Char) :
    n.extendAll? (cs ++ ds) = (n.extendAll? cs).bind fun n => n.extendAll? ds :=
  List.foldlM_append

theorem extendAll?_cons (n : PartialNumber) (c : Char) (cs : List Char) :
    n.extendAll? (c :: cs) = (n.extend? c).bind fun n => n.extendAll? cs := rfl

/-- The number that a text begins. -/
def begun? : List Char → Option PartialNumber
  | [] => none
  | c :: cs => (start? c).bind fun n => n.extendAll? cs

/-- The literal that a text writes; none if the text is no number. -/
def read? (cs : List Char) : Option Literal :=
  (begun? cs).bind fun n => if n.complete then some n.literal else none

/-- The number of which a sign and some digits are read. -/
def ofWhole (negative : Bool) (cs : List Char) : PartialNumber :=
  ⟨if cs = ['0'] then .zero else .whole, negative, (cs.map digitValue).reverse, [], false, 0⟩

theorem extendAll?_whole {cs : List Char} (digits : AllDigits cs) (negative : Bool)
    (whole : List Nat) :
    extendAll? ⟨.whole, negative, whole, [], false, 0⟩ cs =
      some ⟨.whole, negative, (cs.map digitValue).reverse ++ whole, [], false, 0⟩ := by
  induction cs generalizing whole with
  | nil => rfl
  | cons c cs ih =>
    have hc := digits.head
    have he : extend? ⟨.whole, negative, whole, [], false, 0⟩ c =
        some ⟨.whole, negative, digitValue c :: whole, [], false, 0⟩ := by
      have hne : c ≠ '.' ∧ c ≠ 'e' ∧ c ≠ 'E' := by
        refine ⟨?_, ?_, ?_⟩ <;> (rintro rfl; cases hc)
      simp [extend?, hne, digit?_of_isDigit hc]
    rw [extendAll?_cons, he, Option.bind_some, ih digits.tail]
    simp

theorem begun?_signed {cs : List Char} (h : IsWhole cs) (negative : Bool) (rest : List Char) :
    begun? (signed negative (cs ++ rest)) = (ofWhole negative cs).extendAll? rest := by
  cases h with
  | zero => cases negative <;> rfl
  | @nonzero c cs digit positive digits =>
    have hd : digitValue c ≠ 0 := by
      intro hzero
      obtain ⟨low, -⟩ := Char.isDigit_iff_toNat.1 digit
      have hc : c.toNat = '0'.toNat := Nat.le_antisymm (Nat.sub_eq_zero_iff_le.1 hzero) low
      exact positive (Char.toNat_inj.1 hc)
    have hv := digit?_of_isDigit digit
    have hm : c ≠ '-' := by
      rintro rfl
      cases digit
    have hw : ofWhole negative (c :: cs) =
        ⟨.whole, negative, (cs.map digitValue).reverse ++ [digitValue c], [], false, 0⟩ := by
      simp [ofWhole, positive]
    rw [hw]
    have hs : begun? (signed negative (c :: cs ++ rest)) =
        extendAll? ⟨.whole, negative, [digitValue c], [], false, 0⟩ (cs ++ rest) := by
      cases negative
      · simp [signed, begun?, start?, hm, hv, hd]
      · simp [signed, begun?, start?, extendAll?_cons, extend?, hv, hd]
    rw [hs, extendAll?_append, extendAll?_whole digits]
    rfl

/-- A whole number is read to its end. -/
theorem read?_signed {cs : List Char} (h : IsWhole cs) (negative : Bool) :
    read? (signed negative cs) = some ⟨negative, cs.map digitValue, [], none⟩ := by
  have hb := begun?_signed h negative []
  rw [List.append_nil] at hb
  unfold read?
  rw [hb]
  show (if (ofWhole negative cs).complete then some (ofWhole negative cs).literal else none) = _
  unfold ofWhole
  split_ifs <;> simp_all [complete, literal]

/-- Digits that go on with a fraction or an exponent. -/
theorem exists_extendAll?_digits {n : PartialNumber} (hp : n.part = .fraction ∨ n.part = .exponent)
    {cs : List Char} (digits : AllDigits cs) :
    ∃ m, n.extendAll? cs = some m ∧ m.part = n.part := by
  induction cs generalizing n with
  | nil => exact ⟨n, rfl, rfl⟩
  | cons c cs ih =>
    have hc := digits.head
    have hne : c ≠ 'e' ∧ c ≠ 'E' := by
      refine ⟨?_, ?_⟩ <;> (rintro rfl; cases hc)
    have he : ∃ m, n.extend? c = some m ∧ m.part = n.part := by
      obtain ⟨part, _⟩ := n
      rcases hp with hp | hp <;> cases hp <;> simp [extend?, hne, digit?_of_isDigit hc]
    obtain ⟨m, he, hm⟩ := he
    rw [extendAll?_cons, he, Option.bind_some, ← hm]
    exact ih (hm ▸ hp) digits.tail

theorem exists_extendAll?_fraction {n : PartialNumber} (hp : n.part = .zero ∨ n.part = .whole)
    {fs : List Char} (nonempty : fs ≠ []) (digits : AllDigits fs) :
    ∃ m, n.extendAll? ('.' :: fs) = some m ∧ m.part = .fraction := by
  obtain ⟨f, fs, rfl⟩ := List.exists_cons_of_ne_nil nonempty
  have hpoint : n.extend? '.' = some { n with part := .point } := by
    obtain ⟨part, _⟩ := n
    rcases hp with hp | hp <;> cases hp <;> rfl
  have hfirst : extend? { n with part := .point } f =
      some { n with part := .fraction, fraction := [digitValue f] } := by
    simp [extend?, digit?_of_isDigit digits.head]
  rw [extendAll?_cons, hpoint, Option.bind_some, extendAll?_cons, hfirst, Option.bind_some]
  exact exists_extendAll?_digits (.inl rfl) digits.tail

theorem exists_extendAll?_exponent {n : PartialNumber}
    (hp : n.part = .zero ∨ n.part = .whole ∨ n.part = .fraction) {sign : Char}
    (hs : sign = '+' ∨ sign = '-') {xs : List Char} (nonempty : xs ≠ [])
    (digits : AllDigits xs) :
    ∃ m, n.extendAll? ('e' :: sign :: xs) = some m ∧ m.part = .exponent := by
  obtain ⟨x, xs, rfl⟩ := List.exists_cons_of_ne_nil nonempty
  have hmark : n.extend? 'e' = some { n with part := .mark } := by
    obtain ⟨part, _⟩ := n
    rcases hp with hp | hp | hp <;> cases hp <;> rfl
  have hsign : ∃ m, extend? { n with part := .mark } sign = some m ∧ m.part = .markSign := by
    rcases hs with rfl | rfl <;> exact ⟨_, rfl, rfl⟩
  obtain ⟨m, hsign, hm⟩ := hsign
  have hfirst : m.extend? x = some { m with part := .exponent, exponent := digitValue x } := by
    simp [extend?, hm, digit?_of_isDigit digits.head]
  rw [extendAll?_cons, hmark, Option.bind_some, extendAll?_cons, hsign, Option.bind_some,
    extendAll?_cons, hfirst, Option.bind_some]
  exact exists_extendAll?_digits (.inr rfl) digits.tail

theorem exists_begun?_signed {cs : List Char} (h : IsPlain cs) (negative : Bool) :
    ∃ n : PartialNumber, (∀ rest, begun? (signed negative (cs ++ rest)) = n.extendAll? rest) ∧
      (n.part = .zero ∨ n.part = .whole ∨ n.part = .fraction) := by
  have hpart : ∀ cs, (ofWhole negative cs).part = .zero ∨ (ofWhole negative cs).part = .whole := by
    intro cs
    unfold ofWhole
    split_ifs <;> simp
  cases h with
  | whole whole =>
    exact ⟨ofWhole negative cs, begun?_signed whole negative, (hpart cs).imp_right .inl⟩
  | @fraction cs fs whole nonempty digits =>
    obtain ⟨n, hn, hp⟩ := exists_extendAll?_fraction (hpart cs) nonempty digits
    refine ⟨n, fun rest => ?_, .inr (.inr hp)⟩
    rw [List.append_assoc, begun?_signed whole, extendAll?_append, hn]
    rfl

theorem exists_read?_signed {cs : List Char} (h : IsNumber cs) (negative : Bool) :
    ∃ l, read? (signed negative cs) = some l := by
  cases h with
  | plain plain =>
    obtain ⟨n, hn, hp⟩ := exists_begun?_signed plain negative
    have hb := hn []
    rw [List.append_nil] at hb
    refine ⟨n.literal, ?_⟩
    unfold read?
    rw [hb]
    show (if n.complete then some n.literal else none) = _
    rcases hp with hp | hp | hp <;> simp [complete, hp]
  | @exponent cs xs sign plain hs nonempty digits =>
    obtain ⟨n, hn, hp⟩ := exists_begun?_signed plain negative
    obtain ⟨m, hm, hx⟩ := exists_extendAll?_exponent hp hs nonempty digits
    refine ⟨m.literal, ?_⟩
    unfold read?
    rw [hn, hm]
    show (if m.complete then some m.literal else none) = _
    simp [complete, hx]

/-! ## Numbers as tokens -/

theorem extend?_stop (n : PartialNumber) {c : Char} (h : IsStop c) : n.extend? c = none := by
  obtain ⟨part, _⟩ := n
  rw [isStop_iff] at h
  simp only [List.mem_cons, List.not_mem_nil, or_false] at h
  rcases h with rfl | rfl | rfl | rfl | rfl | rfl | rfl | rfl | rfl | rfl <;> cases part <;> rfl

theorem feed_start {c : Char} {n : PartialNumber} (h : start? c = some n) :
    Lexer.start.feed c = some ⟨[], .number n⟩ := by
  have hc : c ∈ ['-', '0', '1', '2', '3', '4', '5', '6', '7', '8', '9'] := by
    rw [List.mem_cons, ← isDigit_iff]
    unfold start? Text.digit? at h
    split_ifs at h with hm hd
    · exact .inl (eq_of_beq hm)
    · exact .inr hd
    · cases h
  have hb : Lexer.start.feed c = (start? c).map fun n => ⟨[], .number n⟩ := by
    clear h
    simp only [List.mem_cons, List.not_mem_nil, or_false] at hc
    rcases hc with rfl | rfl | rfl | rfl | rfl | rfl | rfl | rfl | rfl | rfl | rfl <;> rfl
  rw [hb, h]
  rfl

theorem feedAll_number {n m : PartialNumber} {cs : List Char} (h : n.extendAll? cs = some m) :
    Lexer.feedAll ⟨[], .number n⟩ cs = some ⟨[], .number m⟩ := by
  induction cs generalizing n with
  | nil =>
    cases h
    rfl
  | cons c cs ih =>
    rw [extendAll?_cons] at h
    obtain ⟨p, hp, h⟩ := Option.bind_eq_some_iff.1 h
    have hf : Lexer.feed ⟨[], .number n⟩ c = some ⟨[], .number p⟩ := by
      simp only [Lexer.feed, hp]
    show (Lexer.feed ⟨[], .number n⟩ c).bind (fun l => l.feedAll cs) = _
    rw [hf]
    exact ih h

end PartialNumber

theorem spells_number {cs : List Char} {l : Literal} (h : PartialNumber.read? cs = some l) :
    Spells cs (.number l) := by
  obtain ⟨n, hn, h⟩ := Option.bind_eq_some_iff.1 h
  split_ifs at h with complete
  cases h
  cases cs with
  | nil => cases hn
  | cons c cs =>
    obtain ⟨first, hc, hn⟩ := Option.bind_eq_some_iff.1 hn
    have hread : Lexer.start.feedAll (c :: cs) = some ⟨[], .number n⟩ := by
      show (Lexer.start.feed c).bind (fun l => l.feedAll cs) = _
      rw [PartialNumber.feed_start hc]
      exact PartialNumber.feedAll_number hn
    refine spells_of_settles hread ⟨?_, fun stop hs => ?_⟩
    · simp [Lexer.finish?, complete]
    · simp [Lexer.feed, n.extend?_stop hs, complete]

/-! ## Integers -/

theorem isWhole_toDigits (m : Nat) : IsWhole (Nat.toDigits 10 m) := by
  have hall : AllDigits (Nat.toDigits 10 m) := fun d hd =>
    Nat.isDigit_of_mem_toDigits (by omega) (by omega) hd
  have hhead : 0 < m → ∃ c cs, Nat.toDigits 10 m = c :: cs ∧ c ≠ '0' := by
    clear hall
    induction m using Nat.strongRecOn with
    | _ m ih =>
      intro hm
      by_cases hlow : m < 10
      · refine ⟨m.digitChar, [], Nat.toDigits_of_lt_base hlow, ?_⟩
        rw [Ne, Nat.digitChar_eq_zero]
        omega
      · obtain ⟨c, cs, hc, hne⟩ := ih (m / 10) (by omega) (by omega)
        refine ⟨c, cs ++ [(m % 10).digitChar], ?_, hne⟩
        rw [Nat.toDigits_of_base_le (by omega) (by omega), hc, List.cons_append]
  rcases Nat.eq_zero_or_pos m with rfl | hm
  · exact .zero
  · obtain ⟨c, cs, hc, hne⟩ := hhead hm
    rw [hc] at hall ⊢
    exact .nonzero hall.head hne hall.tail

namespace Literal

theorem le_foldl_digits (s : Nat) (ds : List Nat) :
    s ≤ ds.foldl (fun s d => 10 * s + d) s := by
  induction ds generalizing s with
  | nil => exact Nat.le_refl s
  | cons d ds ih =>
    have := ih (10 * s + d)
    show s ≤ ds.foldl _ (10 * s + d)
    omega

/-- Digits are all taken if a word holds the number that they make. -/
theorem absorb_of_lt {s : Nat} {ds : List Nat}
    (h : ds.foldl (fun s d => 10 * s + d) s < 0x10000000000000000) :
    absorb s ds = (ds.foldl (fun s d => 10 * s + d) s, []) := by
  induction ds generalizing s with
  | nil => rfl
  | cons d ds ih =>
    have hle := le_foldl_digits (10 * s + d) ds
    change ds.foldl _ (10 * s + d) < _ at h
    show (if 10 * s + d < 0x10000000000000000 then absorb (10 * s + d) ds else _) = _
    rw [if_pos (by omega), ih h]
    rfl

theorem absorb_toDigits {m : Nat} (h : m < 0x10000000000000000) :
    absorb 0 ((Nat.toDigits 10 m).map digitValue) = (m, []) := by
  have hm : ((Nat.toDigits 10 m).map digitValue).foldl (fun s d => 10 * s + d) 0 = m := by
    rw [List.foldl_map]
    exact (Nat.ofDigitChars_eq_foldl).symm.trans Nat.ofDigitChars_ten_toDigits
  rw [absorb_of_lt (by omega), hm]

theorem toDatum_integer {n : Int} (least : -0x8000000000000000 ≤ n)
    (greatest : n < 0x10000000000000000) :
    toDatum ⟨decide (n < 0), (Nat.toDigits 10 n.natAbs).map digitValue, [], none⟩ = .integer n := by
  have hi : integer? ⟨decide (n < 0), (Nat.toDigits 10 n.natAbs).map digitValue, [], none⟩ =
      some n := by
    unfold integer?
    rw [absorb_toDigits (by omega)]
    by_cases hn : n < 0
    · rw [decide_eq_true hn]
      show (if 0 < n.natAbs ∧ n.natAbs ≤ 0x8000000000000000 then some (-(n.natAbs : Int))
        else none) = some n
      rw [if_pos ⟨by omega, by omega⟩]
      congr 1
      omega
    · rw [decide_eq_false hn]
      show some (n.natAbs : Int) = some n
      congr 1
      omega
  unfold toDatum
  rw [hi]

end Literal

theorem integer_eq (n : Int) : integer n = signed (decide (n < 0)) (Nat.toDigits 10 n.natAbs) := by
  unfold integer signed
  simp

/-- The text of an integer is a number; if a word holds the integer, it is read as itself. -/
theorem exists_spells_integer (n : Int) :
    ∃ l, Spells (integer n) (.number l) ∧
      (-0x8000000000000000 ≤ n → n < 0x10000000000000000 → l.toDatum = .integer n) := by
  refine ⟨_, spells_number ?_, fun least greatest => Literal.toDatum_integer least greatest⟩
  rw [integer_eq]
  exact PartialNumber.read?_signed (isWhole_toDigits _) _

end Json

/-! ## Floating-point numbers -/

namespace Decimal

namespace Interval

/-- Zero is not inside an interval that ends above it, so it is no multiple that is taken. -/
theorem pos_of_nearestMultiple? {i : Interval} (h : i.below < i.value) {step c : Nat} {tie : Tie}
    (hc : i.nearestMultiple? step tie = some c) : 0 < c := by
  have hzero : i.contains (0 * step) = false := by
    unfold contains
    split_ifs <;> simp <;> omega
  unfold nearestMultiple? at hc
  dsimp only at hc
  generalize i.value / step = low at hc
  have hcases : (c = low ∧ 0 < low) ∨ c = low + 1 := by
    rcases Nat.eq_zero_or_pos low with rfl | hlow
    · rw [hzero] at hc
      split at hc <;> simp_all
    · grind
  omega

theorem pos_of_onGrid? {i : Interval} (h : i.below < i.value) {tie : Tie} {k : Int} {d : Decimal}
    (hd : i.onGrid? tie k = some d) : 0 < d.coefficient := by
  cases k with
  | ofNat k =>
    obtain ⟨c, hc, rfl⟩ := Option.map_eq_some_iff.1 hd
    exact pos_of_nearestMultiple? h hc
  | negSucc k =>
    obtain ⟨c, hc, rfl⟩ := Option.map_eq_some_iff.1 hd
    refine pos_of_nearestMultiple? ?_ hc
    have hpow : 0 < Nat.pow 10 (k + 1) := Nat.pow_pos (by omega)
    exact Nat.mul_lt_mul_of_pos_right h hpow

theorem below_lt_value_ofBinary {mantissa : Nat} (h : 0 < mantissa) (exponent : Int)
    (narrowBelow : Bool) :
    (ofBinary mantissa exponent narrowBelow).below <
      (ofBinary mantissa exponent narrowBelow).value := by
  have hpow : 0 < Nat.pow 2 exponent.toNat := Nat.pow_pos (by omega)
  have hle : (ofBinary mantissa exponent narrowBelow).below ≤ 2 * Nat.pow 2 exponent.toNat := by
    unfold ofBinary
    dsimp only
    split_ifs <;> omega
  have hvalue : 4 * Nat.pow 2 exponent.toNat ≤ 4 * mantissa * Nat.pow 2 exponent.toNat :=
    Nat.mul_le_mul_right _ (by omega)
  exact Nat.lt_of_le_of_lt hle (Nat.lt_of_lt_of_le (by omega) hvalue)

end Interval

/-- The shortest decimal of a positive number is positive, or the decimal that stands for none. -/
theorem shortest_cases {mantissa : Nat} (h : 0 < mantissa) (exponent : Int) (narrowBelow : Bool)
    (tie : Tie) :
    0 < (shortest mantissa exponent narrowBelow tie).coefficient ∨
      shortest mantissa exponent narrowBelow tie = ⟨0, 0⟩ := by
  unfold shortest
  dsimp only
  generalize hf : List.findSome? _ _ = found
  cases found with
  | none => exact .inr rfl
  | some d =>
    obtain ⟨i, -, hi⟩ := List.exists_of_findSome?_eq_some hf
    exact .inl (Interval.pos_of_onGrid? (Interval.below_lt_value_ofBinary h ..) hi)

end Decimal

namespace Numeral

open Json (AllDigits IsWhole IsPlain IsNumber isWhole_toDigits)
open Float.Model (Format UnpackedFloat)

/-- A point may stand anywhere among digits, but not to the right of a zero that is alone. -/
theorem isPlain_withPoint {digits : List Char} (h : IsWhole digits) {n : Int}
    (hn : digits = ['0'] → n ≤ 1) : IsPlain (withPoint digits n true) := by
  unfold withPoint
  rw [if_pos rfl]
  split_ifs with hneg hshort
  · -- a zero, the point, more zeros, and all digits
    have hnil : List.replicate (-n).toNat '0' ++ digits ≠ [] :=
      List.append_ne_nil_of_right_ne_nil _ h.ne_nil
    exact .fraction .zero hnil ((AllDigits.zeros _).append h.allDigits)
  · -- the digits with zeros after them
    have hwhole : IsWhole (digits ++ List.replicate (n.toNat - digits.length) '0') := by
      cases h with
      | zero =>
        have hone := hn rfl
        have hnone : n.toNat = 1 := by omega
        rw [hnone]
        exact .zero
      | nonzero digit positive digits =>
        exact .nonzero digit positive (digits.append (AllDigits.zeros _))
    exact .fraction hwhole (by simp) (AllDigits.zeros 1)
  · have hrest : digits.drop n.toNat ≠ [] := by
      rw [Ne, List.drop_eq_nil_iff]
      omega
    exact .fraction (h.take (by omega)) hrest (h.allDigits.drop _)

theorem isNumber_withExponent {digits : List Char} (h : IsWhole digits) (exponent : Int) :
    IsNumber (withExponent digits exponent) := by
  have hone : IsWhole (digits.take 1) := h.take (by omega)
  have hmantissa : IsPlain
      (digits.take 1 ++ if digits.length ≤ 1 then [] else '.' :: digits.drop 1) := by
    split_ifs with hlen
    · rw [List.append_nil]
      exact .whole hone
    · have hrest : digits.drop 1 ≠ [] := by
        rw [Ne, List.drop_eq_nil_iff]
        omega
      exact .fraction hone hrest (h.allDigits.drop 1)
  refine .exponent hmantissa ?_ Nat.toDigits_ne_nil (isWhole_toDigits _).allDigits
  split_ifs <;> simp

/-- Every positive decimal, and the one that stands for none, is written as a number. -/
theorem isNumber_write {style : Style} (pointed : style.pointed = true) {d : Decimal}
    (h : 0 < d.coefficient ∨ d = ⟨0, 0⟩) : IsNumber (style.write d) := by
  unfold Style.write
  dsimp only
  rw [pointed]
  split_ifs with hexp
  · exact isNumber_withExponent (isWhole_toDigits _) _
  · refine .plain (isPlain_withPoint (isWhole_toDigits _) fun hzero => ?_)
    rcases h with h | rfl
    · exfalso
      have hvalue := congrArg (fun cs => Nat.ofDigitChars 10 cs 0) hzero
      rw [Nat.ofDigitChars_ten_toDigits] at hvalue
      change d.coefficient = 0 at hvalue
      omega
    · decide

/-- What is written for a number of a binary format in data reads as a number. -/
theorem exists_read?_write {format : Format} {style : Style} (pointed : style.pointed = true)
    {x : UnpackedFloat} {text : List Char} (h : write format style x = some text) :
    ∃ l, Json.PartialNumber.read? text = some l := by
  have hsigned : ∀ sign cs, ∃ negative, write.signed sign cs = Json.signed negative cs := by
    intro sign cs
    cases sign with
    | positive => exact ⟨false, rfl⟩
    | negative => exact ⟨true, rfl⟩
  have hread : ∀ sign cs, IsNumber cs →
      ∃ l, Json.PartialNumber.read? (write.signed sign cs) = some l := by
    intro sign cs hcs
    obtain ⟨negative, hs⟩ := hsigned sign cs
    rw [hs]
    exact Json.PartialNumber.exists_read?_signed hcs negative
  cases x with
  | notANumber => cases h
  | infinity sign => cases h
  | zero sign =>
    cases h
    refine hread sign _ (.plain ?_)
    rw [pointed]
    exact isPlain_withPoint .zero fun _ => Int.le_refl 1
  | finite sign mantissa exponent positive =>
    cases h
    exact hread sign _ (isNumber_write pointed (Decimal.shortest_cases positive ..))

end Numeral

end LifeStory

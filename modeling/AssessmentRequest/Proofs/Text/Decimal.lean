import AssessmentRequest.Proofs.Outcome
import AssessmentRequest.Text.Numeral

/-!
# Decimal numerals

What a natural number may be written as, said without the reader: digits, of which there is at
least one, after an optional plus sign. The reader accepts exactly these texts, up to its
limit, and the printed form of a number is one of them, that without sign and leading zeros. An
integer may have a minus sign as well.

Main statements: `readNat_eq_ok_iff`, `readInt_eq_ok_iff`, `denotes_repr` and
`dropWhile_zero_eq_toDigits`.
-/

namespace AssessmentRequest.Numeral

open Outcome (map_eq_ok_iff)

/-- One or more decimal digits. -/
structure IsDigits (text : List Char) : Prop where
  /-- There is a digit. -/
  nonempty : text ≠ []
  /-- Nothing else occurs. -/
  digits : ∀ char ∈ text, char.isDigit

/-- The text is a decimal numeral of the value. Leading zeros are allowed. -/
inductive Denotes : List Char → Nat → Prop where
  /-- Digits alone. -/
  | plain {text : List Char} : IsDigits text → Denotes text (Nat.ofDigitChars 10 text 0)
  /-- Digits after a plus sign. -/
  | signed {text : List Char} :
    IsDigits text → Denotes ('+' :: text) (Nat.ofDigitChars 10 text 0)

/-- More digits never make a value smaller. -/
theorem le_ofDigitChars (text : List Char) (start : Nat) :
    start ≤ Nat.ofDigitChars 10 text start := by
  induction text generalizing start with
  | nil => exact Nat.le_refl _
  | cons char rest ih =>
    rw [Nat.ofDigitChars_cons]
    have hr := ih (10 * start + (char.toNat - '0'.toNat))
    omega

/-- Digits are read if nothing else is among them and their whole value is within the limit.
The limit is tested at every digit, and the value only grows. -/
theorem readDigits_eq_ok_iff {limit : Nat} {beyond : Fault} {text : List Char}
    {start value : Nat} (h : start ≤ limit) :
    readDigits limit beyond start text = .ok value ↔
      (∀ char ∈ text, char.isDigit) ∧ Nat.ofDigitChars 10 text start = value ∧ value ≤ limit := by
  induction text generalizing start with
  | nil =>
    simp only [readDigits, Except.ok.injEq, List.not_mem_nil, false_implies, implies_true,
      Nat.ofDigitChars_nil, true_and]
    constructor
    · rintro rfl
      exact ⟨rfl, h⟩
    · exact And.left
  | cons char rest ih =>
    rw [readDigits, Nat.ofDigitChars_cons]
    simp only [List.mem_cons, forall_eq_or_imp]
    by_cases hd : char.isDigit
    · by_cases hn : 10 * start + (char.toNat - '0'.toNat) ≤ limit
      · rw [if_pos hd, if_pos hn, ih hn]
        simp only [hd, true_and]
      · have hv := le_ofDigitChars rest (10 * start + (char.toNat - '0'.toNat))
        rw [if_pos hd, if_neg hn]
        simp only [reduceCtorEq, false_iff]
        intro hden
        obtain ⟨-, rfl, hl⟩ := hden
        exact hn (Nat.le_trans hv hl)
    · rw [if_neg hd]
      simp only [reduceCtorEq, hd, Bool.false_eq_true, false_and]

/-- A plus sign is no digit. -/
theorem not_isDigits_plus (text : List Char) : ¬ IsDigits ('+' :: text) := by
  intro h
  have hp := h.digits '+' (List.mem_cons_self ..)
  contradiction

/-- After a plus sign only digits make a numeral. -/
theorem denotes_plus_iff {text : List Char} {value : Nat} :
    Denotes ('+' :: text) value ↔ IsDigits text ∧ Nat.ofDigitChars 10 text 0 = value := by
  constructor
  · intro h
    cases h with
    | plain hd => exact absurd hd (not_isDigits_plus text)
    | signed hd => exact ⟨hd, rfl⟩
  · intro h
    obtain ⟨hd, rfl⟩ := h
    exact .signed hd

/-- Without a plus sign in front only digits make a numeral. -/
theorem denotes_iff_of_ne_plus {text : List Char} (h : ∀ rest, text ≠ '+' :: rest)
    {value : Nat} :
    Denotes text value ↔ IsDigits text ∧ Nat.ofDigitChars 10 text 0 = value := by
  constructor
  · intro hn
    cases hn with
    | plain hd => exact ⟨hd, rfl⟩
    | signed hd => exact absurd rfl (h _)
  · intro h
    obtain ⟨hd, rfl⟩ := h
    exact .plain hd

/-- Of a text that is not empty, the digit loop alone decides. -/
theorem readDigits_eq_ok_iff_isDigits {limit : Nat} {beyond : Fault} {text : List Char}
    (h : text ≠ []) {value : Nat} :
    readDigits limit beyond 0 text = .ok value ↔
      (IsDigits text ∧ Nat.ofDigitChars 10 text 0 = value) ∧ value ≤ limit := by
  rw [readDigits_eq_ok_iff (Nat.zero_le limit), ← and_assoc]
  have hd : (∀ char ∈ text, char.isDigit) ↔ IsDigits text :=
    ⟨fun hd => ⟨h, hd⟩, IsDigits.digits⟩
  rw [hd]

/-- The reader accepts exactly the numerals whose value is within the limit. -/
theorem readNat_eq_ok_iff {limit : Nat} {text : List Char} {value : Nat} :
    readNat limit text = .ok value ↔ Denotes text value ∧ value ≤ limit := by
  unfold readNat
  split
  · have hn : ¬ Denotes [] value := by
      rw [denotes_iff_of_ne_plus (fun _ => List.cons_ne_nil _ _ |>.symm)]
      exact fun hd => hd.1.nonempty rfl
    simp only [reduceCtorEq, hn, false_and]
  · have hn : ¬ Denotes ['+'] value := by
      rw [denotes_plus_iff]
      exact fun hd => hd.1.nonempty rfl
    simp only [reduceCtorEq, hn, false_and]
  · next digits hne =>
    rw [readDigits_eq_ok_iff_isDigits (fun he => hne (he ▸ rfl)), denotes_plus_iff]
  · next hnil _ hplus =>
    rw [readDigits_eq_ok_iff_isDigits hnil, denotes_iff_of_ne_plus hplus]

/-- A text is a numeral of one value only. -/
theorem Denotes.unique {text : List Char} {value other : Nat} (h : Denotes text value)
    (ho : Denotes text other) : value = other := by
  have hvalue := readNat_eq_ok_iff.mpr ⟨h, Nat.le_max_left value other⟩
  have hother := readNat_eq_ok_iff.mpr ⟨ho, Nat.le_max_right value other⟩
  exact Except.ok.inj (hvalue.symm.trans hother)

/-- The printed form of a number is a numeral of it. -/
theorem denotes_repr (value : Nat) : Denotes value.repr.toList value := by
  have hd : IsDigits (Nat.toDigits 10 value) :=
    ⟨Nat.toDigits_ne_nil, fun _ hc => Nat.isDigit_of_mem_toDigits (by decide) (by decide) hc⟩
  have hv : Nat.ofDigitChars 10 (Nat.toDigits 10 value) 0 = value :=
    Nat.ofDigitChars_ten_toDigits
  have hn := Denotes.plain hd
  rwa [hv, ← Nat.toList_repr] at hn

/-- A digit stands between zero and nine. -/
theorem bounds_of_isDigit {char : Char} (h : char.isDigit) :
    48 ≤ char.toNat ∧ char.toNat ≤ 57 := by
  simp only [Char.isDigit, Bool.and_eq_true, decide_eq_true_eq] at h
  exact ⟨UInt32.le_iff_toNat_le.mp h.1, UInt32.le_iff_toNat_le.mp h.2⟩

/-- A digit is the printed form of its value. -/
theorem toDigits_of_isDigit {char : Char} (h : char.isDigit) :
    Nat.toDigits 10 (char.toNat - '0'.toNat) = [char] := by
  obtain ⟨hlow, hhigh⟩ := bounds_of_isDigit h
  have hzero : '0'.toNat = 48 := rfl
  have hvalue : char.toNat - '0'.toNat < 10 := by omega
  have hchar : (char.toNat - '0'.toNat).digitChar = char := by
    apply Char.toNat_inj.mp
    rw [Nat.toNat_digitChar_of_lt_ten hvalue]
    omega
  rw [Nat.toDigits_of_lt_base hvalue, hchar]

/-- Digits behind a number are printed behind it. -/
theorem toDigits_ofDigitChars {digits : List Char} (hd : ∀ char ∈ digits, char.isDigit)
    {start : Nat} (hs : 0 < start) :
    Nat.toDigits 10 (Nat.ofDigitChars 10 digits start) = Nat.toDigits 10 start ++ digits := by
  induction digits generalizing start with
  | nil => rw [Nat.ofDigitChars_nil, List.append_nil]
  | cons char rest ih =>
    obtain ⟨hchar, hrest⟩ := List.forall_mem_cons.mp hd
    obtain ⟨hlow, hhigh⟩ := bounds_of_isDigit hchar
    have hzero : '0'.toNat = 48 := rfl
    rw [Nat.ofDigitChars_cons, ih hrest (by omega),
      ← Nat.toDigits_append_toDigits (by decide) hs (by omega), toDigits_of_isDigit hchar,
      List.append_assoc, List.singleton_append]

/-- Behind its leading zeros a numeral is the printed form of its value. -/
theorem dropWhile_zero_eq_toDigits {digits : List Char} (hd : ∀ char ∈ digits, char.isDigit)
    (hpos : 0 < Nat.ofDigitChars 10 digits 0) :
    digits.dropWhile (· = '0') = Nat.toDigits 10 (Nat.ofDigitChars 10 digits 0) := by
  induction digits with
  | nil => exact absurd hpos (Nat.lt_irrefl 0)
  | cons char rest ih =>
    obtain ⟨hchar, hrest⟩ := List.forall_mem_cons.mp hd
    rw [Nat.ofDigitChars_cons, Nat.mul_zero, Nat.zero_add] at hpos ⊢
    by_cases hc : char = '0'
    · rw [hc] at hpos ⊢
      rw [List.dropWhile_cons_of_pos (by decide)]
      exact ih hrest hpos
    · obtain ⟨hlow, -⟩ := bounds_of_isDigit hchar
      have hne : char.toNat ≠ '0'.toNat := fun he => hc (Char.toNat_inj.mp he)
      have hzero : '0'.toNat = 48 := rfl
      rw [List.dropWhile_cons_of_neg (by simpa using hc), toDigits_ofDigitChars hrest (by omega),
        toDigits_of_isDigit hchar, List.singleton_append]

/-- Every character of a numeral is a plus sign or a digit. -/
theorem Denotes.mem_cases {text : List Char} {value : Nat} (h : Denotes text value)
    {char : Char} (hc : char ∈ text) : char = '+' ∨ char.isDigit := by
  cases h with
  | plain hd => exact .inr (hd.digits char hc)
  | signed hd =>
    rcases List.mem_cons.mp hc with hp | hr
    · exact .inl hp
    · exact .inr (hd.digits char hr)

/-- A numeral holds no control character. -/
theorem Denotes.not_mem_control {text : List Char} {value : Nat}
    (hd : Denotes text value) {char : Char} (h : char.toNat < 32) : char ∉ text := by
  intro hm
  rcases hd.mem_cases hm with hp | hc
  · rw [hp] at h
    contradiction
  · obtain ⟨hle, -⟩ := bounds_of_isDigit hc
    omega

/-- The text is a decimal numeral of the integer. Zero may have either sign. -/
inductive DenotesInt : List Char → Int → Prop where
  /-- A numeral of a natural number. -/
  | natural {text : List Char} {value : Nat} : Denotes text value → DenotesInt text value
  /-- Digits after a minus sign. -/
  | negated {text : List Char} :
    IsDigits text → DenotesInt ('-' :: text) (-(Nat.ofDigitChars 10 text 0 : Int))

/-- A natural number has no numeral with a minus sign. -/
theorem not_denotes_minus (text : List Char) (value : Nat) : ¬ Denotes ('-' :: text) value := by
  intro h
  rcases h.mem_cases (List.mem_cons_self ..) with hp | hd <;> contradiction

/-- After a minus sign only digits make a numeral. -/
theorem denotesInt_minus_iff {text : List Char} {value : Int} :
    DenotesInt ('-' :: text) value ↔
      IsDigits text ∧ -(Nat.ofDigitChars 10 text 0 : Int) = value := by
  constructor
  · intro h
    cases h with
    | natural hn => exact absurd hn (not_denotes_minus text _)
    | negated hd => exact ⟨hd, rfl⟩
  · intro h
    obtain ⟨hd, rfl⟩ := h
    exact .negated hd

/-- Without a minus sign in front only the numerals of natural numbers are left. -/
theorem denotesInt_iff_of_ne_minus {text : List Char} (h : ∀ rest, text ≠ '-' :: rest)
    {value : Int} :
    DenotesInt text value ↔ ∃ natural : Nat, Denotes text natural ∧ natural = value := by
  constructor
  · intro hi
    cases hi with
    | natural hn => exact ⟨_, hn, rfl⟩
    | negated hd => exact absurd rfl (h _)
  · intro hi
    obtain ⟨natural, hn, rfl⟩ := hi
    exact .natural hn

/-- Without a minus sign in front an integer is read as a natural number. -/
theorem readInt_of_ne_minus {bits : Nat} {text : List Char} (h : ∀ rest, text ≠ '-' :: rest) :
    readInt bits text = (readNat (halfRange bits - 1) text).map Int.ofNat := by
  unfold readInt readNat
  split
  · rfl
  · rfl
  · exact absurd rfl (h _)
  · next digits hne =>
    split
    · next he => exact absurd he (by simp)
    · next he => exact absurd (List.cons.inj he).2 hne
    · next he => rw [(List.cons.inj he).2]
    · next hplus => exact absurd rfl (hplus _)
  · exact absurd rfl (h _)
  · next hnil hplus hminus hsigned hnegated =>
    split
    · exact absurd rfl hnil
    · exact absurd rfl (hsigned _)
    · exact absurd rfl (hsigned _)
    · rfl

/-- After a minus sign only digits are read, up to the least integer. -/
theorem readInt_minus_eq_ok_iff {bits : Nat} {text : List Char} {value : Int} :
    readInt bits ('-' :: text) = .ok value ↔
      DenotesInt ('-' :: text) value ∧ -(halfRange bits : Int) ≤ value := by
  rw [denotesInt_minus_iff]
  cases text with
  | nil =>
    have hn : ¬ IsDigits [] := fun hd => hd.nonempty rfl
    simp [readInt, hn]
  | cons char rest =>
    have hread : readInt bits ('-' :: char :: rest) =
        (readDigits (halfRange bits) .tooSmall 0 (char :: rest)).map
          fun natural : Nat => -(natural : Int) := by
      simp only [readInt]
      cases readDigits (halfRange bits) .tooSmall 0 (char :: rest) <;> rfl
    rw [hread, map_eq_ok_iff]
    have hdigits : ∀ natural,
        readDigits (halfRange bits) .tooSmall 0 (char :: rest) = .ok natural ↔
          (IsDigits (char :: rest) ∧ Nat.ofDigitChars 10 (char :: rest) 0 = natural) ∧
            natural ≤ halfRange bits :=
      fun _ => readDigits_eq_ok_iff_isDigits (List.cons_ne_nil char rest)
    constructor
    · intro h
      obtain ⟨natural, hn, rfl⟩ := h
      obtain ⟨⟨hd, rfl⟩, hle⟩ := (hdigits natural).mp hn
      exact ⟨⟨hd, rfl⟩, by omega⟩
    · intro h
      obtain ⟨⟨hd, rfl⟩, hle⟩ := h
      exact ⟨_, (hdigits _).mpr ⟨⟨hd, rfl⟩, by omega⟩, rfl⟩

/-- The reader accepts exactly the numerals of the integers that so many bits can hold. -/
theorem readInt_eq_ok_iff {bits : Nat} {text : List Char} {value : Int} :
    readInt bits text = .ok value ↔
      DenotesInt text value ∧ -(halfRange bits : Int) ≤ value ∧ value < halfRange bits := by
  have hpos : 0 < halfRange bits := Nat.pow_pos (by decide)
  by_cases hm : ∃ rest, text = '-' :: rest
  · obtain ⟨rest, rfl⟩ := hm
    rw [readInt_minus_eq_ok_iff, denotesInt_minus_iff]
    constructor
    · intro h
      obtain ⟨⟨hd, rfl⟩, hle⟩ := h
      exact ⟨⟨hd, rfl⟩, hle, by omega⟩
    · exact fun h => ⟨h.1, h.2.1⟩
  · have hne : ∀ rest, text ≠ '-' :: rest := fun rest he => hm ⟨rest, he⟩
    rw [readInt_of_ne_minus hne, denotesInt_iff_of_ne_minus hne, map_eq_ok_iff]
    simp only [readNat_eq_ok_iff]
    constructor
    · intro h
      obtain ⟨natural, ⟨hd, hle⟩, rfl⟩ := h
      exact ⟨⟨natural, hd, rfl⟩, by simp only [Int.ofNat_eq_natCast]; omega⟩
    · intro h
      obtain ⟨⟨natural, hd, rfl⟩, -, hlt⟩ := h
      exact ⟨natural, ⟨hd, by omega⟩, rfl⟩

end AssessmentRequest.Numeral

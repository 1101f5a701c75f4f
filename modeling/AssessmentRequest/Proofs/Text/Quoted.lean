import Mathlib.Data.List.Nodup
import AssessmentRequest.Proofs.Position
import AssessmentRequest.Text.Quoted
import AssessmentRequest.Toml.Number

/-!
# Quoted texts

A quoted text is a double quote, the written forms of its characters, one after the other, and
another double quote. A written form tells where it ends and which character it stands for, and
none begins with a double quote, so a quoted text tells where it ends and what it quotes. Whatever
is quoted, all that is written is printable.

Main statements: `hexNumeral_toDigits`, `written_escape`, `quoteChars_append_inj` and
`forall_isPrintable_quoteChars`.
-/

namespace AssessmentRequest

open Position

namespace Printable

/-- The control characters of Unicode. -/
def IsControl (char : Char) : Prop :=
  char.toNat < 0x20 ∨ 0x7F ≤ char.toNat ∧ char.toNat < 0xA0

/-- A character is printable exactly if it is in no hidden range. -/
theorem isPrintable_iff {char : Char} :
    isPrintable char = true ↔
      ∀ range ∈ hiddenRanges, char.toNat < range.1 ∨ range.2 < char.toNat := by
  simp only [isPrintable, List.all_eq_true, Bool.or_eq_true, decide_eq_true_eq]

/-- No control character is printable. -/
theorem not_isControl_of_isPrintable {char : Char} (h : isPrintable char = true) :
    ¬ IsControl char := by
  rw [isPrintable_iff] at h
  have hlow := h (0x0, 0x1F) (by decide)
  have hhigh := h (0x7F, 0xA0) (by decide)
  unfold IsControl
  omega

/-- Whether a character is one of ASCII and no control. -/
def isGraphic (char : Char) : Bool := 0x20 ≤ char.toNat && char.toNat < 0x7F

/-- The characters of ASCII are printable, but for the controls among them. -/
theorem isPrintable_of_isGraphic {char : Char} (h : isGraphic char = true) :
    isPrintable char = true := by
  have hranges : ∀ range ∈ hiddenRanges, range.2 < 0x20 ∨ 0x7F ≤ range.1 := by decide +kernel
  simp only [isGraphic, Bool.and_eq_true, decide_eq_true_eq] at h
  rw [isPrintable_iff]
  intro range hm
  have hrange := hranges range hm
  omega

/-- All of a text in graphic ASCII characters is printable. -/
theorem forall_isPrintable_of_all {chars : List Char} (h : chars.all isGraphic = true) :
    ∀ char ∈ chars, isPrintable char = true :=
  fun char hm => isPrintable_of_isGraphic (List.all_eq_true.mp h char hm)

end Printable

namespace Quoted

/-- The hexadecimal digits, with small letters. -/
def smallHexDigits : List Char :=
  ['0', '1', '2', '3', '4', '5', '6', '7', '8', '9', 'a', 'b', 'c', 'd', 'e', 'f']

/-- The digits are the hexadecimal numeral of the value, with small letters and without leading
zeros. -/
structure HexNumeral (digits : List Char) (value : Nat) : Prop where
  /-- There are no other characters. -/
  small : ∀ digit ∈ digits, digit ∈ smallHexDigits
  /-- There is a digit. -/
  nonempty : digits ≠ []
  /-- A zero in front stands alone. -/
  shortest : digits.head? = some '0' → digits = ['0']
  /-- The digits have the value. -/
  value : Toml.digitsValue 16 digits = value

/-- A number below sixteen is written as one digit. -/
theorem hexNumeral_digitChar {value : Nat} (h : value < 16) :
    HexNumeral [value.digitChar] value := by
  have hdigit : ∀ value < 16, value.digitChar ∈ smallHexDigits ∧
      Toml.digitsValue 16 [value.digitChar] = value := by decide
  obtain ⟨hsmall, hvalue⟩ := hdigit value h
  exact ⟨List.forall_mem_singleton.mpr hsmall, List.cons_ne_nil _ _,
    fun hzero => by rw [Option.some.inj hzero], hvalue⟩

/-- One more digit behind a numeral takes its value sixteen times. -/
theorem HexNumeral.concat {digits : List Char} {value digit : Nat} (h : HexNumeral digits value)
    (hv : 0 < value) (hd : digit < 16) :
    HexNumeral (digits ++ [digit.digitChar]) (16 * value + digit) := by
  obtain ⟨hsmall, -, -, hdigit⟩ := hexNumeral_digitChar hd
  refine ⟨?_, List.append_ne_nil_of_left_ne_nil h.nonempty _, ?_, ?_⟩
  · exact List.forall_mem_append.mpr ⟨h.small, hsmall⟩
  · intro hzero
    rw [List.head?_append_of_ne_nil _ h.nonempty] at hzero
    have hvalue := h.value
    rw [h.shortest hzero] at hvalue
    exact absurd hvalue (Nat.ne_of_lt hv)
  · rw [Toml.digitsValue, List.foldl_append, ← Toml.digitsValue, h.value]
    simpa [Toml.digitsValue] using hdigit

/-- Every number has its numeral. -/
theorem hexNumeral_toDigits (value : Nat) : HexNumeral (Nat.toDigits 16 value) value := by
  induction value using Nat.strongRecOn with
  | ind value ih =>
    rw [Nat.toDigits_eq_if (by decide)]
    split
    · next hlt => exact hexNumeral_digitChar hlt
    · next hge =>
      have hfront := ih (value / 16) (Nat.div_lt_self (by omega) (by decide))
      have hconcat := hfront.concat (by omega) (Nat.mod_lt value (by decide))
      rwa [Nat.div_add_mod] at hconcat

/-- The characters that are written as a backslash and a letter, each with its letter. -/
def letters : List (Char × Char) :=
  [('\x00', '0'), ('\t', 't'), ('\n', 'n'), ('\r', 'r'), ('"', '"'), ('\\', '\\')]

/-- A backslash is not written as it is. -/
theorem backslash_mem_letters : '\\' ∈ letters.map Prod.fst := by decide

/-- The letter of code points stands for no character. -/
theorem u_not_mem_letters (char : Char) : (char, 'u') ∉ letters := by
  simp [letters]

/-- How a character is written between the quotes. -/
inductive Written : Char → List Char → Prop where
  /-- Some characters have a letter. -/
  | letter {char letter : Char} : (char, letter) ∈ letters → Written char ['\\', letter]
  /-- Of the others the printable ones stand as they are. -/
  | plain {char : Char} : char ∉ letters.map Prod.fst → Printable.isPrintable char = true →
    Written char [char]
  /-- The rest is written by its code point. -/
  | codePoint {char : Char} {digits : List Char} : char ∉ letters.map Prod.fst →
    Printable.isPrintable char = false → HexNumeral digits char.toNat →
    Written char ('\\' :: 'u' :: '\x7b' :: digits ++ ['\x7d'])

/-- The written form of a character is the one that it has to have. -/
theorem written_escape (char : Char) : Written char (escape char) := by
  by_cases hl : char ∈ letters.map Prod.fst
  · simp only [letters, List.map_cons, List.map_nil, List.mem_cons, List.not_mem_nil,
      or_false] at hl
    rcases hl with rfl | rfl | rfl | rfl | rfl | rfl <;> exact .letter (by decide)
  · have hescape : escape char =
        if Printable.isPrintable char then [char] else codePoint char := by
      simp only [letters, List.map_cons, List.map_nil, List.mem_cons, List.not_mem_nil, or_false,
        not_or] at hl
      simp only [escape, hl, if_false]
    rw [hescape]
    split
    · next hp => exact .plain hl hp
    · next hp =>
      exact .codePoint hl (Bool.eq_false_iff.mpr hp) (hexNumeral_toDigits char.toNat)

/-- A written form does not begin with a double quote. -/
theorem Written.exists_cons {char : Char} {piece : List Char} (h : Written char piece) :
    ∃ first others, piece = first :: others ∧ first ≠ '"' := by
  cases h with
  | letter _ => exact ⟨_, _, rfl, by decide⟩
  | plain hl _ =>
    refine ⟨char, [], rfl, ?_⟩
    rintro rfl
    exact hl (by decide)
  | codePoint _ _ _ => exact ⟨_, _, rfl, by decide⟩

/-- No digit closes the numeral. -/
theorem HexNumeral.not_mem_brace {digits : List Char} {value : Nat} (h : HexNumeral digits value) :
    '\x7d' ∉ digits :=
  fun hm => absurd (h.small _ hm) (by decide)

/-- A written form tells where it ends and which character it stands for. -/
theorem Written.append_inj {char char' : Char} {piece piece' rest rest' : List Char}
    (h : Written char piece) (h' : Written char' piece') (he : piece ++ rest = piece' ++ rest') :
    char = char' ∧ rest = rest' := by
  cases h with
  | @letter letter hm =>
    cases h' with
    | letter hm' =>
      obtain ⟨-, he⟩ := List.cons.inj he
      obtain ⟨rfl, rfl⟩ := List.cons.inj he
      have hletters : (letters.map Prod.snd).Nodup := by decide
      exact ⟨(Prod.mk.inj (List.inj_on_of_nodup_map hletters hm hm' rfl)).1, rfl⟩
    | plain hl _ =>
      obtain ⟨rfl, -⟩ := List.cons.inj he
      exact absurd backslash_mem_letters hl
    | codePoint _ _ _ =>
      obtain ⟨-, he⟩ := List.cons.inj he
      obtain ⟨rfl, -⟩ := List.cons.inj he
      exact absurd hm (u_not_mem_letters _)
  | plain hl _ =>
    cases h' with
    | letter _ =>
      obtain ⟨rfl, -⟩ := List.cons.inj he
      exact absurd backslash_mem_letters hl
    | plain _ _ => exact List.cons.inj he
    | codePoint _ _ _ =>
      obtain ⟨rfl, -⟩ := List.cons.inj he
      exact absurd backslash_mem_letters hl
  | codePoint _ _ hn =>
    cases h' with
    | letter hm =>
      obtain ⟨-, he⟩ := List.cons.inj he
      obtain ⟨rfl, -⟩ := List.cons.inj he
      exact absurd hm (u_not_mem_letters _)
    | plain hl _ =>
      obtain ⟨rfl, -⟩ := List.cons.inj he
      exact absurd backslash_mem_letters hl
    | codePoint _ _ hn' =>
      -- the brace behind the digits is the first one, so the numerals are the same
      simp only [List.cons_append, List.append_assoc, List.nil_append, List.cons.injEq,
        true_and] at he
      obtain ⟨rfl, rfl⟩ := append_cons_inj_of_not_mem hn.not_mem_brace hn'.not_mem_brace he
      exact ⟨Char.toNat_inj.mp (hn.value.symm.trans hn'.value), rfl⟩

/-- The characters of a text tell where the closing quote is. -/
theorem flatMap_escape_append_inj {chars chars' rest rest' : List Char}
    (h : chars.flatMap escape ++ '"' :: rest = chars'.flatMap escape ++ '"' :: rest') :
    chars = chars' ∧ rest = rest' := by
  have hquote : ∀ char (others after after' : List Char),
      '"' :: after ≠ (char :: others).flatMap escape ++ after' := by
    intro char others after after' he
    obtain ⟨first, more, hpiece, hfirst⟩ := (written_escape char).exists_cons
    rw [List.flatMap_cons, hpiece] at he
    exact hfirst (List.cons.inj he).1.symm
  induction chars generalizing chars' with
  | nil =>
    cases chars' with
    | nil => exact ⟨rfl, (List.cons.inj h).2⟩
    | cons char others => exact absurd h (hquote char others _ _)
  | cons char others ih =>
    cases chars' with
    | nil => exact absurd h.symm (hquote char others _ _)
    | cons char' others' =>
      rw [List.flatMap_cons, List.flatMap_cons, List.append_assoc, List.append_assoc] at h
      obtain ⟨rfl, hothers⟩ := (written_escape char).append_inj (written_escape char') h
      obtain ⟨rfl, rfl⟩ := ih hothers
      exact ⟨rfl, rfl⟩

/-- A quoted text tells where it ends and what it quotes. -/
theorem quoteChars_append_inj {chars chars' rest rest' : List Char}
    (h : quoteChars chars ++ rest = quoteChars chars' ++ rest') :
    chars = chars' ∧ rest = rest' := by
  simp only [quoteChars, List.cons_append, List.append_assoc, List.nil_append, List.cons.injEq,
    true_and] at h
  exact flatMap_escape_append_inj h

/-- All that is written for a character is printable. -/
theorem Written.forall_isPrintable {char : Char} {piece : List Char} (h : Written char piece) :
    ∀ other ∈ piece, Printable.isPrintable other = true := by
  have hbackslash : Printable.isPrintable '\\' = true :=
    Printable.isPrintable_of_isGraphic (by decide)
  cases h with
  | @letter letter hm =>
    have hletters : (letters.map Prod.snd).all Printable.isGraphic = true := by decide
    have hletter := Printable.forall_isPrintable_of_all hletters _ (List.mem_map_of_mem hm)
    exact List.forall_mem_cons.mpr ⟨hbackslash, List.forall_mem_singleton.mpr hletter⟩
  | plain _ hp => exact List.forall_mem_singleton.mpr hp
  | codePoint _ _ hn =>
    have hdigits : smallHexDigits.all Printable.isGraphic = true := by decide
    have hbraces : ['u', '\x7b', '\x7d'].all Printable.isGraphic = true := by decide
    have hother := Printable.forall_isPrintable_of_all hbraces
    intro other hm
    simp only [List.cons_append, List.mem_cons, List.mem_append, List.not_mem_nil, or_false] at hm
    rcases hm with rfl | rfl | rfl | hm | rfl
    · exact hbackslash
    · exact hother _ (by decide)
    · exact hother _ (by decide)
    · exact Printable.forall_isPrintable_of_all hdigits other (hn.small other hm)
    · exact hother _ (by decide)

/-- All of a quoted text is printable. -/
theorem forall_isPrintable_quoteChars (chars : List Char) :
    ∀ char ∈ quoteChars chars, Printable.isPrintable char = true := by
  have hquote : Printable.isPrintable '"' = true :=
    Printable.isPrintable_of_isGraphic (by decide)
  rw [quoteChars, List.cons_append, List.forall_mem_cons, List.forall_mem_append,
    List.forall_mem_singleton]
  refine ⟨hquote, fun char hm => ?_, hquote⟩
  obtain ⟨source, -, hpiece⟩ := List.mem_flatMap.mp hm
  exact (written_escape source).forall_isPrintable char hpiece

end Quoted

end AssessmentRequest

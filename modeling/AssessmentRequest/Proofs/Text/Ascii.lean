import AssessmentRequest.Text.Utf8

/-!
# ASCII in encoded texts

An ASCII character is written as one byte below 0x80, any other one as bytes
of 0x80 or above. A byte below 0x80 therefore stands in an encoded text
exactly where its character stands in the text.

Main statements: `asciiByte_mem_encode_iff`, `getLast?_encode_eq_iff` and `head?_eq_some_iff`.
-/

namespace AssessmentRequest.Utf8

/-- The byte that an ASCII character is written as. -/
def asciiByte (char : Char) : UInt8 := UInt8.ofNat char.toNat

theorem toNat_asciiByte {char : Char} (h : char.toNat < 128) :
    (asciiByte char).toNat = char.toNat := by
  have hm : char.toNat % 256 = char.toNat := Nat.mod_eq_of_lt (by omega)
  simpa [asciiByte] using hm

/-- ASCII characters are told apart by their bytes. -/
theorem asciiByte_inj {left right : Char} (hl : left.toNat < 128) (hr : right.toNat < 128) :
    asciiByte left = asciiByte right ↔ left = right := by
  constructor
  · intro h
    have hn := congrArg UInt8.toNat h
    rw [toNat_asciiByte hl, toNat_asciiByte hr] at hn
    exact Char.toNat_inj.mp hn
  · rintro rfl
    rfl

/-- An ASCII character is written as its one byte. -/
theorem utf8EncodeChar_of_ascii {char : Char} (h : char.toNat < 128) :
    String.utf8EncodeChar char = [asciiByte char] := by
  have hc : char.val.toNat ≤ 0x7f := Nat.le_of_lt_succ h
  unfold String.utf8EncodeChar
  rw [if_pos hc]
  rfl

/-- No byte of any other character is an ASCII byte. -/
theorem le_of_mem_utf8EncodeChar {char : Char} (h : 128 ≤ char.toNat) {byte : UInt8}
    (hb : byte ∈ String.utf8EncodeChar char) : 128 ≤ byte.toNat := by
  have hc : char.val.toNat = char.toNat := rfl
  unfold String.utf8EncodeChar at hb
  dsimp only at hb
  split at hb
  · omega
  · split at hb
    · simp only [List.mem_cons, List.not_mem_nil, or_false] at hb
      rcases hb with rfl | rfl <;> simp <;> omega
    · split at hb
      · simp only [List.mem_cons, List.not_mem_nil, or_false] at hb
        rcases hb with rfl | rfl | rfl <;> simp <;> omega
      · simp only [List.mem_cons, List.not_mem_nil, or_false] at hb
        rcases hb with rfl | rfl | rfl | rfl <;> simp <;> omega

/-- The small letter of a capital stands 32 places behind it. -/
theorem toNat_toLower {char : Char} (h : 65 ≤ char.toNat ∧ char.toNat ≤ 90) :
    char.toLower.toNat = char.toNat + 32 := by
  have hcapital : char.val ≥ 'A'.val ∧ char.val ≤ 'Z'.val :=
    ⟨UInt32.le_iff_toNat_le.mpr h.1, UInt32.le_iff_toNat_le.mpr h.2⟩
  have hval : char.toLower.val = char.val + ('a'.val - 'A'.val) :=
    congrArg Char.val (dif_pos hcapital)
  have hsum : (char.val + ('a'.val - 'A'.val)).toNat = (char.toNat + 32) % 4294967296 :=
    UInt32.toNat_add ..
  rw [Char.toNat, hval, hsum]
  omega

/-- Any character but an ASCII capital stays as it is when it is made small. -/
theorem toLower_of_not_capital {char : Char} (h : ¬ (65 ≤ char.toNat ∧ char.toNat ≤ 90)) :
    char.toLower = char := by
  refine dif_neg fun hc => h ?_
  exact ⟨UInt32.le_iff_toNat_le.mp hc.1, UInt32.le_iff_toNat_le.mp hc.2⟩

/-- An ASCII byte among the bytes of one character is that character. -/
theorem asciiByte_mem_utf8EncodeChar_iff {ascii char : Char} (h : ascii.toNat < 128) :
    asciiByte ascii ∈ String.utf8EncodeChar char ↔ ascii = char := by
  by_cases hc : char.toNat < 128
  · rw [utf8EncodeChar_of_ascii hc, List.mem_singleton, asciiByte_inj h hc]
  · constructor
    · intro hm
      have hb := le_of_mem_utf8EncodeChar (by omega) hm
      rw [toNat_asciiByte h] at hb
      omega
    · rintro rfl
      exact absurd h hc

/-- The bytes of a text are those of its characters in order. -/
theorem encode_eq_flatMap (text : String) :
    encode text = text.toList.flatMap String.utf8EncodeChar := by
  rw [← encode_ofList, String.ofList_toList]

/-- A text of ASCII characters is written as their bytes. -/
theorem encode_eq_map {text : String} (h : ∀ char ∈ text.toList, char.toNat < 128) :
    encode text = text.toList.map asciiByte := by
  have hbytes : text.toList.map String.utf8EncodeChar =
      text.toList.map fun char => [asciiByte char] :=
    List.map_congr_left fun char hm => utf8EncodeChar_of_ascii (h char hm)
  rw [encode_eq_flatMap, List.map_eq_flatMap, List.flatMap_def, hbytes, List.flatMap_def]

/-- An ASCII byte stands in an encoded text exactly if its character stands in the text. -/
theorem asciiByte_mem_encode_iff (ascii : Char) (h : ascii.toNat < 128) (text : String) :
    asciiByte ascii ∈ encode text ↔ ascii ∈ text.toList := by
  rw [encode_eq_flatMap, List.mem_flatMap]
  constructor
  · intro h
    obtain ⟨char, hm, hb⟩ := h
    rwa [(asciiByte_mem_utf8EncodeChar_iff h).mp hb]
  · intro hm
    exact ⟨ascii, hm, (asciiByte_mem_utf8EncodeChar_iff h).mpr rfl⟩

/-- An encoded text ends with an ASCII byte exactly if the text ends with its character. -/
theorem getLast?_encode_eq_iff (ascii : Char) (h : ascii.toNat < 128) (text : String) :
    (encode text).getLast? = some (asciiByte ascii) ↔ text.toList.getLast? = some ascii := by
  rw [encode_eq_flatMap]
  rcases List.eq_nil_or_concat text.toList with hnil | ⟨before, last, hlast⟩
  · simp [hnil]
  · have hne : String.utf8EncodeChar last ≠ [] := String.utf8EncodeChar_ne_nil
    rw [List.concat_eq_append] at hlast
    rw [hlast, List.flatMap_append, List.flatMap_singleton, List.getLast?_append,
      Option.or_of_isSome (List.getLast?_isSome.mpr hne), List.getLast?_concat, Option.some.injEq]
    constructor
    · intro hl
      exact ((asciiByte_mem_utf8EncodeChar_iff h).mp (List.mem_of_getLast? hl)).symm
    · rintro rfl
      rw [utf8EncodeChar_of_ascii h, List.getLast?_singleton]

/-- A sequence that is read adds bits to those of its first byte. -/
theorem le_of_continuation {following bits code : Nat} {least greatest : UInt8}
    {bytes rest : Bytes}
    (h : continuation following least greatest bits bytes = (some code, rest)) : bits ≤ code := by
  induction following generalizing least greatest bits bytes with
  | zero =>
    obtain ⟨hc, -⟩ := Prod.mk.inj h
    exact Nat.le_of_eq (Option.some.inj hc)
  | succ more ih =>
    cases bytes with
    | nil => cases h
    | cons byte others =>
      rw [continuation] at h
      split at h
      · have hb := ih h
        omega
      · cases h

/-- The next byte of a sequence adds six bits, and is at least the least byte allowed. -/
theorem le_of_continuation_succ {more bits code : Nat} {least greatest : UInt8}
    {bytes rest : Bytes}
    (h : continuation (more + 1) least greatest bits bytes = (some code, rest)) :
    ∃ byte others, bytes = byte :: others ∧ least ≤ byte ∧
      continuation more 0x80 0xBF (bits * 64 + (byte.toNat - 0x80)) others = (some code, rest) := by
  cases bytes with
  | nil => cases h
  | cons byte others =>
    rw [continuation] at h
    split at h
    · next hb => exact ⟨byte, others, rfl, hb.1, h⟩
    · cases h

/-- The first byte of a sequence and the least second byte keep its code point beyond ASCII. -/
theorem lead?_cases {byte : UInt8} {lead : Lead} (h : lead? byte = some lead) :
    lead.following = 1 ∧ 2 ≤ lead.bits ∨
      2 ≤ lead.following ∧ (1 ≤ lead.bits ∨ 0x90 ≤ lead.least) := by
  simp only [lead?, UInt8.lt_iff_toNat_lt, ← UInt8.toNat_inj, UInt8.reduceToNat] at h
  split at h
  · cases h
  · split at h <;> grind

/-- No sequence of several bytes is read as an ASCII character. -/
theorem le_of_lead? {byte : UInt8} {lead : Lead} {code : Nat} {bytes rest : Bytes}
    (hl : lead? byte = some lead)
    (h : continuation lead.following lead.least lead.greatest lead.bits bytes = (some code, rest)) :
    128 ≤ code := by
  rcases lead?_cases hl with ⟨hone, hbits⟩ | ⟨htwo, hbits⟩
  · rw [hone] at h
    obtain ⟨second, others, -, -, hrest⟩ := le_of_continuation_succ h
    have hc := le_of_continuation hrest
    omega
  · obtain ⟨more, hmore⟩ := Nat.exists_eq_add_of_le' htwo
    rw [hmore] at h
    obtain ⟨second, others, -, hsecond, hrest⟩ := le_of_continuation_succ h
    obtain ⟨third, last, -, -, hlast⟩ := le_of_continuation_succ hrest
    have hc := le_of_continuation hlast
    have hs := UInt8.le_iff_toNat_le.mp hsecond
    rcases hbits with hone | hleast
    · omega
    · have hn : 0x90 ≤ lead.least.toNat := UInt8.le_iff_toNat_le.mp hleast
      omega

/-- The character of a code point is the character of that number, or the null character where
there is none. -/
theorem toNat_charOfNat (code : Nat) :
    (Char.ofNat code).toNat = code ∨ (Char.ofNat code).toNat = 0 := by
  by_cases hv : code.isValidChar
  · rw [Char.ofNat, dif_pos hv]
    exact .inl rfl
  · rw [Char.ofNat, dif_neg hv]
    exact .inr rfl

/-- An ASCII character in front is read from one byte. -/
theorem eq_asciiByte_of_headStep {letter : Char} (hn : 0 < letter.toNat) (h : letter.toNat < 128)
    {byte : UInt8} {others rest : Bytes} (hh : headStep byte others = (some letter, rest)) :
    byte = asciiByte letter ∧ others = rest := by
  unfold headStep at hh
  split at hh
  · next hb =>
    obtain ⟨hl, rfl⟩ := Prod.mk.inj hh
    have hc := toNat_charOfNat byte.toNat
    rw [Option.some.inj hl] at hc
    have hbyte : letter.toNat = byte.toNat := by omega
    exact ⟨by rw [asciiByte, hbyte, UInt8.ofNat_toNat], rfl⟩
  · split at hh
    · cases hh
    · next lead hlead =>
      obtain ⟨hl, -⟩ := Prod.mk.inj hh
      obtain ⟨code, hcode, rfl⟩ := Option.map_eq_some_iff.mp hl
      have hle := le_of_lead? hlead (Prod.ext hcode rfl)
      have hc := toNat_charOfNat code
      omega

/-- Bytes begin with an ASCII character exactly if its byte is the first one. The null character
is left out. -/
theorem head?_eq_some_iff {letter : Char} (hn : 0 < letter.toNat) (h : letter.toNat < 128)
    {bytes rest : Bytes} :
    head? bytes = some (letter, rest) ↔ bytes = asciiByte letter :: rest := by
  constructor
  · intro hh
    cases bytes with
    | nil => cases hh
    | cons byte others =>
      have hstep : headStep byte others = (some letter, rest) := by
        simp only [head?] at hh
        split at hh
        · next he =>
          cases hh
          exact he
        · cases hh
      obtain ⟨rfl, rfl⟩ := eq_asciiByte_of_headStep hn h hstep
      rfl
  · rintro rfl
    have hb : asciiByte letter < 0x80 := by
      rw [UInt8.lt_iff_toNat_lt, toNat_asciiByte h]
      exact h
    rw [head?, headStep, if_pos hb, toNat_asciiByte h, Char.ofNat_toNat]

end AssessmentRequest.Utf8

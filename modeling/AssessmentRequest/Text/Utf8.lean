/-!
# UTF-8 over lists of bytes

Everything that crosses the program's border is a list of bytes. `encode` writes
a text, `decode?` reads one and refuses every malformed list, and `decodeLossy`
reads any list at all, putting U+FFFD in the place of each malformed part.

Main statements: `decode?_eq_some_iff` (reading accepts exactly what writing
produces) and `encode_append`.
-/

namespace AssessmentRequest

/-- A string of bytes, as read from a file, a socket or the command line. -/
abbrev Bytes := List UInt8

namespace Utf8

/-- The bytes of a text. -/
def encode (text : String) : Bytes := text.toByteArray.data.toList

/-- The text whose encoding is exactly the given bytes, if there is one. -/
def decode? (bytes : Bytes) : Option String := String.fromUTF8? bytes.toByteArray

theorem toByteArray_encode (text : String) : (encode text).toByteArray = text.toByteArray := by
  apply ByteArray.ext
  simp [encode]

theorem encode_ofList (chars : List Char) :
    encode (String.ofList chars) = chars.flatMap String.utf8EncodeChar := by
  simp [encode, List.utf8Encode]

theorem encode_append (left right : String) :
    encode (left ++ right) = encode left ++ encode right := by
  simp [encode]

theorem encode_injective {left right : String} (h : encode left = encode right) :
    left = right := by
  have bytes := congrArg List.toByteArray h
  rw [toByteArray_encode, toByteArray_encode] at bytes
  exact String.toByteArray_inj.mp bytes

/-- Reading accepts exactly what writing produces. -/
theorem decode?_eq_some_iff {bytes : Bytes} {text : String} :
    decode? bytes = some text ↔ bytes = encode text := by
  constructor
  · intro h
    simp only [decode?, String.fromUTF8?] at h
    split at h
    · cases h
      simp [encode, String.fromUTF8]
    · contradiction
  · rintro rfl
    have valid : (encode text).toByteArray.IsValidUTF8 := by
      rw [toByteArray_encode]
      exact text.isValidUTF8
    simp only [decode?, String.fromUTF8?, dif_pos valid, Option.some.injEq]
    apply String.toByteArray_inj.mp
    simp [String.fromUTF8, toByteArray_encode]

theorem decode?_encode (text : String) : decode? (encode text) = some text :=
  decode?_eq_some_iff.mpr rfl

/-- What the first byte of a multi-byte sequence announces. -/
structure Lead where
  /-- The bits of the code point held by the first byte. -/
  bits : Nat
  /-- Number of bytes that have to follow. -/
  following : Nat
  /-- Least second byte that keeps the sequence shortest and a scalar value. -/
  least : UInt8
  /-- Greatest second byte that keeps the code point a scalar value. -/
  greatest : UInt8

/-- The sequence opened by a byte of 0x80 or above, if it opens one. -/
def lead? (byte : UInt8) : Option Lead :=
  if byte < 0xC2 then none
  else if byte < 0xE0 then some ⟨byte.toNat - 0xC0, 1, 0x80, 0xBF⟩
  else if byte = 0xE0 then some ⟨0, 2, 0xA0, 0xBF⟩
  else if byte = 0xED then some ⟨13, 2, 0x80, 0x9F⟩
  else if byte < 0xF0 then some ⟨byte.toNat - 0xE0, 2, 0x80, 0xBF⟩
  else if byte = 0xF0 then some ⟨0, 3, 0x90, 0xBF⟩
  else if byte < 0xF4 then some ⟨byte.toNat - 0xF0, 3, 0x80, 0xBF⟩
  else if byte = 0xF4 then some ⟨4, 3, 0x80, 0x8F⟩
  else none

/-- Reads the bytes that a sequence still needs. Without a code point the bytes
left begin with the first one that does not fit. -/
def continuation (following : Nat) (least greatest : UInt8) (bits : Nat) (bytes : Bytes) :
    Option Nat × Bytes :=
  match following, bytes with
  | 0, rest => (some bits, rest)
  | _ + 1, [] => (none, [])
  | more + 1, byte :: rest =>
    if least ≤ byte ∧ byte ≤ greatest then
      continuation more 0x80 0xBF (bits * 64 + (byte.toNat - 0x80)) rest
    else (none, byte :: rest)

theorem continuation_length_le (following : Nat) (least greatest : UInt8) (bits : Nat)
    (bytes : Bytes) :
    (continuation following least greatest bits bytes).2.length ≤ bytes.length := by
  induction following generalizing least greatest bits bytes with
  | zero => simp [continuation]
  | succ more ih =>
    cases bytes with
    | nil => simp [continuation]
    | cons byte rest =>
      unfold continuation
      split
      · exact Nat.le_succ_of_le (ih _ _ _ _)
      · exact Nat.le_refl _

/-- The character in front of non-empty bytes, `none` for a malformed part, and
the bytes after it. A malformed part is a byte that opens no sequence, or the
longest beginning of a sequence that is cut short. -/
def headStep (byte : UInt8) (rest : Bytes) : Option Char × Bytes :=
  if byte < 0x80 then (some (Char.ofNat byte.toNat), rest)
  else
    match lead? byte with
    | none => (none, rest)
    | some lead =>
      let read := continuation lead.following lead.least lead.greatest lead.bits rest
      (read.1.map Char.ofNat, read.2)

theorem headStep_length_le (byte : UInt8) (rest : Bytes) :
    (headStep byte rest).2.length ≤ rest.length := by
  unfold headStep
  split
  · exact Nat.le_refl _
  · split
    · exact Nat.le_refl _
    · exact continuation_length_le _ _ _ _ _

/-- The first character, if the bytes begin with a well-formed one. -/
def head? : Bytes → Option (Char × Bytes)
  | [] => none
  | byte :: rest =>
    match headStep byte rest with
    | (some char, tail) => some (char, tail)
    | (none, _) => none

/-- The character that stands for a malformed part. -/
def replacement : Char := '\uFFFD'

/-- A part of any bytes. -/
inductive Part where
  /-- A well-formed character. -/
  | char (value : Char)
  /-- Bytes that are no character. -/
  | malformed (bytes : Bytes)
  deriving Repr, DecidableEq

/-- The first part of non-empty bytes. -/
def firstPart (byte : UInt8) (rest : Bytes) : Part :=
  match (headStep byte rest).1 with
  | some value => .char value
  | none => .malformed (byte :: rest.take (rest.length - (headStep byte rest).2.length))

/-- The characters and the malformed parts of any bytes, in order. -/
def parts : Bytes → List Part
  | [] => []
  | byte :: rest => firstPart byte rest :: parts (headStep byte rest).2
termination_by bytes => bytes.length
decreasing_by exact Nat.lt_succ_of_le (headStep_length_le byte rest)

/-- The character shown for a part. -/
def Part.shown : Part → Char
  | char value => value
  | malformed _ => replacement

/-- Reads any bytes as a text that can be shown. -/
def decodeLossy (bytes : Bytes) : String := String.ofList ((parts bytes).map Part.shown)

end Utf8

end AssessmentRequest

import AssessmentRequest.Proofs.Wire.Representation

/-!
# The normal form of a request

The reader leaves some liberties: the case of the kind, a plus sign and leading zeros in the
count, a carriage return in a terminator. The normal form of some bytes uses none of them, and
what is written again after reading is this normal form, unless a carriage return is left in a
field, which is not sent.

Main statements: `normalForm_of_decode`, `length_normalForm_le`, `length_normalForm_eq_iff` and
`decode_encode_normalForm`.
-/

namespace AssessmentRequest.Wire

/-- An ASCII capital made small, as a byte. -/
def lowerByte (byte : UInt8) : UInt8 := if 0x41 ≤ byte ∧ byte ≤ 0x5A then byte + 0x20 else byte

/-- A numeral without its plus sign and its leading zeros. -/
def bareNumeral (raw : Bytes) : Bytes :=
  (if raw.head? = some 0x2B then raw.tail else raw).dropWhile (· = 0x30)

/-- The raw lines of a request without carriage returns in their terminators, the kind in small
letters and the count as a bare numeral. -/
def normalLines : List Bytes → List Bytes
  | kindLine :: countLine :: others =>
    (dropReturn kindLine).map lowerByte :: bareNumeral (dropReturn countLine) ::
      others.map dropReturn
  | lines => lines.map dropReturn

/-- The bytes of a request with their lines in normal form. -/
def normalForm (bytes : Bytes) : Bytes := (normalLines (split bytes).1).flatMap terminate

/-- The two begin with lines that differ in the case of ASCII letters at most, and are the same
from there on. -/
def SameButKindCase (left right : Bytes) : Prop :=
  ∃ first second rest, lineFeed ∉ first ∧ lineFeed ∉ second ∧
    first.map lowerByte = second.map lowerByte ∧
    left = terminate first ++ rest ∧ right = terminate second ++ rest

/-- A small letter stays as it is. -/
theorem lowerByte_lowerByte (byte : UInt8) : lowerByte (lowerByte byte) = lowerByte byte := by
  unfold lowerByte
  grind

/-- Making a letter small leaves no line feed where there was none. -/
theorem lowerByte_eq_lineFeed_iff {byte : UInt8} : lowerByte byte = lineFeed ↔ byte = lineFeed := by
  unfold lowerByte lineFeed
  grind

/-- The byte of an ASCII character is made small as the character is. -/
theorem lowerByte_asciiByte {char : Char} (h : char.toNat < 128) :
    lowerByte (Utf8.asciiByte char) = Utf8.asciiByte char.toLower := by
  have hb := Utf8.toNat_asciiByte h
  have hshift : UInt8.toNat 0x20 = 32 := rfl
  apply UInt8.toNat_inj.mp
  simp only [lowerByte, UInt8.le_iff_toNat_le, hb, UInt8.reduceToNat]
  by_cases hc : 65 ≤ char.toNat ∧ char.toNat ≤ 90
  · have hl := Utf8.toNat_toLower hc
    rw [if_pos hc, UInt8.toNat_add, hb, hshift, Utf8.toNat_asciiByte (by omega), hl]
    exact Nat.mod_eq_of_lt (by omega)
  · rw [if_neg hc, Utf8.toLower_of_not_capital hc, hb]

/-- The bytes of a character beyond ASCII have no case. -/
theorem map_lowerByte_utf8EncodeChar (char : Char) :
    (String.utf8EncodeChar char).map lowerByte = String.utf8EncodeChar char.toLower := by
  by_cases hc : char.toNat < 128
  · have hl : char.toLower.toNat < 128 := by
      by_cases hcapital : 65 ≤ char.toNat ∧ char.toNat ≤ 90
      · rw [Utf8.toNat_toLower hcapital]
        omega
      · rwa [Utf8.toLower_of_not_capital hcapital]
    rw [Utf8.utf8EncodeChar_of_ascii hc, Utf8.utf8EncodeChar_of_ascii hl, List.map_singleton,
      lowerByte_asciiByte hc]
  · have hsame : ∀ byte ∈ String.utf8EncodeChar char, lowerByte byte = id byte := by
      intro byte hb
      have hle := Utf8.le_of_mem_utf8EncodeChar (by omega) hb
      refine if_neg fun hcapital => ?_
      have hhigh : byte.toNat ≤ 90 := UInt8.le_iff_toNat_le.mp hcapital.2
      omega
    rw [Utf8.toLower_of_not_capital (by omega), List.map_congr_left hsame, List.map_id]

/-- The bytes of a text are made small as its characters are. -/
theorem map_lowerByte_encode (text : String) :
    (Utf8.encode text).map lowerByte = Utf8.encode (String.ofList (Kind.lowerAscii text)) := by
  rw [Utf8.encode_eq_flatMap, Utf8.encode_ofList, Kind.lowerAscii, List.map_flatMap,
    List.flatMap_map]
  simp only [map_lowerByte_utf8EncodeChar]

/-- A kind line in small letters is the tag of its kind. -/
theorem map_lowerByte_of_sameLetters {text : String} {kind : Kind}
    (h : SameLetters text kind.tag) : (Utf8.encode text).map lowerByte = Utf8.encode kind.tag := by
  rw [map_lowerByte_encode, Kind.sameLetters_iff.mp h, String.ofList_toList]

/-- The bytes of digits lose their leading zeros as the digits do. -/
theorem dropWhile_map_asciiByte {digits : List Char} (hd : ∀ char ∈ digits, char.isDigit) :
    (digits.map Utf8.asciiByte).dropWhile (· = 0x30) =
      (digits.dropWhile (· = '0')).map Utf8.asciiByte := by
  induction digits with
  | nil => rfl
  | cons char rest ih =>
    obtain ⟨hchar, hrest⟩ := List.forall_mem_cons.mp hd
    obtain ⟨-, hhigh⟩ := Numeral.bounds_of_isDigit hchar
    have hascii : char.toNat < 128 := by omega
    have hzero : Utf8.asciiByte char = 0x30 ↔ char = '0' :=
      @Utf8.asciiByte_inj char '0' hascii (by decide)
    simp only [List.map_cons, List.dropWhile_cons, hzero, ih hrest]
    split <;> rfl

/-- The bytes of digits begin with no plus sign. -/
theorem head?_map_asciiByte_ne_plus {digits : List Char} (hd : ∀ char ∈ digits, char.isDigit) :
    (digits.map Utf8.asciiByte).head? ≠ some 0x2B := by
  intro hplus
  rw [List.head?_map, Option.map_eq_some_iff] at hplus
  obtain ⟨char, hhead, hbyte⟩ := hplus
  obtain ⟨hlow, hhigh⟩ := Numeral.bounds_of_isDigit (hd char (List.mem_of_head? hhead))
  have hascii : char.toNat < 128 := by omega
  have hnat := Utf8.toNat_asciiByte hascii
  have hplus : UInt8.toNat 0x2B = 43 := rfl
  rw [hbyte, hplus] at hnat
  omega

/-- A count line without its sign and leading zeros is the printed form of the count. -/
theorem bareNumeral_of_denotes {text : String} {count : Nat}
    (h : Numeral.Denotes text.toList count) (hpos : 0 < count) :
    bareNumeral (Utf8.encode text) = Utf8.encode count.repr := by
  have hascii : ∀ {chars : List Char} {value : Nat}, Numeral.Denotes chars value →
      ∀ char ∈ chars, char.toNat < 128 := by
    intro chars value hn char hm
    rcases hn.mem_cases hm with rfl | hd
    · decide
    · obtain ⟨-, hhigh⟩ := Numeral.bounds_of_isDigit hd
      omega
  rw [Utf8.encode_eq_map (hascii h), Utf8.encode_eq_map (hascii (Numeral.denotes_repr count)),
    Nat.toList_repr, bareNumeral]
  generalize text.toList = chars at h
  cases h with
  | plain hd =>
    rw [if_neg (head?_map_asciiByte_ne_plus hd.digits), dropWhile_map_asciiByte hd.digits,
      Numeral.dropWhile_zero_eq_toDigits hd.digits hpos]
  | @signed digits hd =>
    have hplus : (('+' :: digits).map Utf8.asciiByte).head? = some 0x2B := rfl
    rw [if_pos hplus, List.map_cons, List.tail_cons, dropWhile_map_asciiByte hd.digits,
      Numeral.dropWhile_zero_eq_toDigits hd.digits hpos]

/-- The raw lines of a spelling have the lines of the request for their normal form. -/
theorem normalLines_of_spelled {raws : List Bytes} {texts : List String} {request : Request}
    (hc : List.Forall₂ Carries raws texts) (hs : Spelled request texts) :
    normalLines raws = request.lines.map Utf8.encode := by
  have hdrop {raws : List Bytes} {texts : List String} (hc : List.Forall₂ Carries raws texts) :
      raws.map dropReturn = texts.map Utf8.encode :=
    Matching.map_eq_map_of_forall₂ (hc.imp fun _ _ => carries_iff.mp)
  cases hs with
  | intro hletters hnumeral hpos hle hlacks =>
    cases hc with
    | cons hkind hrest =>
      cases hrest with
      | cons hcount hothers =>
        rw [normalLines, carries_iff.mp hkind, carries_iff.mp hcount, hdrop hothers,
          map_lowerByte_of_sameLetters hletters, bareNumeral_of_denotes hnumeral hpos,
          Request.lines]
        rfl

/-- What is written again after reading is the normal form of the bytes read. -/
theorem normalForm_of_decode {bytes : Bytes} {request : Request} {consumed : Nat}
    (h : decode bytes = .complete request consumed) :
    normalForm (bytes.take consumed) = request.wire := by
  obtain ⟨raws, texts, rest, rfl, hl, hc, hs, rfl⟩ := decode_eq_complete_iff.mp h
  rw [List.take_left, normalForm, split_terminated hl, normalLines_of_spelled hc hs,
    wire_eq_flatMap]

/-- A line is not longer without the carriage return of its terminator. -/
theorem dropReturn_isPrefix (raw : Bytes) : dropReturn raw <+: raw := by
  unfold dropReturn
  split
  · exact List.dropLast_prefix raw
  · exact List.prefix_refl raw

/-- A numeral ends with its bare form. -/
theorem bareNumeral_suffix (raw : Bytes) : bareNumeral raw <:+ raw := by
  refine (List.dropWhile_suffix _).trans ?_
  split
  · exact List.tail_suffix raw
  · exact List.suffix_refl raw

/-- Line by line the first is no longer than the second. -/
def Shortens : List Bytes → List Bytes → Prop :=
  List.Forall₂ fun short long => short.length ≤ long.length

/-- No line of the normal form is longer than the raw line that it comes from. -/
theorem shortens_normalLines (lines : List Bytes) : Shortens (normalLines lines) lines := by
  have hdrop : ∀ lines : List Bytes, Shortens (lines.map dropReturn) lines := by
    intro lines
    rw [Shortens, List.forall₂_map_left_iff, List.forall₂_same]
    exact fun raw _ => (dropReturn_isPrefix raw).length_le
  cases lines with
  | nil => exact hdrop []
  | cons kindLine rest =>
    cases rest with
    | nil => exact hdrop [kindLine]
    | cons countLine others =>
      refine .cons ?_ (.cons ?_ (hdrop others))
      · rw [List.length_map]
        exact (dropReturn_isPrefix kindLine).length_le
      · exact Nat.le_trans (bareNumeral_suffix _).length_le
          (dropReturn_isPrefix countLine).length_le

/-- Lines that are no longer take no more bytes, and as many only if none of them is shorter. -/
theorem Shortens.length_le {shorts longs : List Bytes} (h : Shortens shorts longs) :
    (shorts.flatMap terminate).length ≤ (longs.flatMap terminate).length ∧
      ((shorts.flatMap terminate).length = (longs.flatMap terminate).length →
        shorts.map List.length = longs.map List.length) := by
  induction h with
  | nil => exact ⟨Nat.le_refl _, fun _ => rfl⟩
  | cons hfirst hrest ih =>
    obtain ⟨hle, heq⟩ := ih
    simp only [List.flatMap_cons, List.length_append, length_terminate, List.map_cons]
    refine ⟨by omega, fun htotal => ?_⟩
    rw [heq (by omega), Nat.le_antisymm hfirst (by omega)]

/-- The normal form is no longer than the bytes. -/
theorem length_normalForm_le (bytes : Bytes) : (normalForm bytes).length ≤ bytes.length := by
  have hlines := (shortens_normalLines (split bytes).1).length_le.1
  have hbytes := congrArg List.length (flatMap_split bytes)
  rw [List.length_append] at hbytes
  rw [normalForm]
  omega

/-- Lines of which none is shorter in normal form differ from it in the case of the first one
only. -/
theorem normalLines_of_length {kindLine countLine : Bytes} {others : List Bytes}
    (h : (normalLines (kindLine :: countLine :: others)).map List.length =
      (kindLine :: countLine :: others).map List.length) :
    normalLines (kindLine :: countLine :: others) =
      kindLine.map lowerByte :: countLine :: others := by
  simp only [normalLines, List.map_cons, List.cons.injEq, List.length_map] at h ⊢
  obtain ⟨hkind, hcount, hothers⟩ := h
  have hbare := (bareNumeral_suffix (dropReturn countLine)).length_le
  have hdrop := (dropReturn_isPrefix countLine).length_le
  refine ⟨?_, ?_, ?_⟩
  · rw [(dropReturn_isPrefix kindLine).eq_of_length hkind]
  · rw [(bareNumeral_suffix _).eq_of_length (Nat.le_antisymm hbare (by omega)),
      (dropReturn_isPrefix countLine).eq_of_length (Nat.le_antisymm hdrop (by omega))]
  · rw [List.map_map, List.map_inj_left] at hothers
    have hsame : ∀ raw ∈ others, dropReturn raw = id raw := fun raw hr =>
      (dropReturn_isPrefix raw).eq_of_length (hothers raw hr)
    rw [List.map_congr_left hsame, List.map_id]

/-- Bytes that differ in the case of a kind only are as many. -/
theorem SameButKindCase.length_eq {left right : Bytes} (h : SameButKindCase left right) :
    left.length = right.length := by
  obtain ⟨first, second, rest, -, -, hcase, rfl, rfl⟩ := h
  have hlength := congrArg List.length hcase
  rw [List.length_map, List.length_map] at hlength
  rw [List.length_append, List.length_append, length_terminate, length_terminate, hlength]

/-- The normal form of a request that has been read takes as many bytes exactly if the case of the
kind is all that it changes. -/
theorem length_normalForm_eq_iff {bytes : Bytes} {request : Request} {consumed : Nat}
    (h : decode bytes = .complete request consumed) :
    (normalForm (bytes.take consumed)).length = consumed ↔
      SameButKindCase (bytes.take consumed) (normalForm (bytes.take consumed)) := by
  have hsize : (bytes.take consumed).length = consumed := by
    have hbounds := decode_complete_bounds h
    rw [List.length_take, Nat.min_eq_left hbounds.2]
  constructor
  · intro hlength
    obtain ⟨raws, texts, rest, rfl, hl, hc, hs, rfl⟩ := decode_eq_complete_iff.mp h
    rw [List.take_left, normalForm, split_terminated hl] at hlength ⊢
    have hlines := (shortens_normalLines raws).length_le.2 hlength
    cases hs with
    | intro hletters hnumeral hpos hle hlacks =>
      cases hc with
      | @cons kindLine _ _ _ hkind hrest =>
        cases hrest with
        | @cons countLine _ others _ hcount hothers =>
          obtain ⟨hfirst, -⟩ := List.forall_mem_cons.mp hl
          rw [normalLines_of_length hlines]
          refine ⟨kindLine, kindLine.map lowerByte, (countLine :: others).flatMap terminate,
            hfirst, ?_, ?_, rfl, rfl⟩
          · intro hfeed
            obtain ⟨byte, hb, he⟩ := List.mem_map.mp hfeed
            rw [lowerByte_eq_lineFeed_iff] at he
            exact hfirst (he ▸ hb)
          · simp only [List.map_map, Function.comp_def, lowerByte_lowerByte]
  · intro hcase
    rw [← hcase.length_eq, hsize]

/-- Of a request that has been read and is not sent, a field holds a carriage return. -/
theorem carriageReturn_of_decode {bytes : Bytes} {request : Request} {consumed : Nat}
    {error : RequestError} (h : decode bytes = .complete request consumed)
    (hf : request.fault? = some error) :
    ∃ record ∈ request.records, ∃ field, error = .invalidField field (record.get field) ∧
      '\r' ∈ (record.get field).toList := by
  obtain ⟨hne, hlacks⟩ := records_of_decode h
  rcases Request.fault?_cases hf with ⟨hnil, -⟩ | ⟨record, hr, field, rfl, char, hm, hbreaking⟩
  · exact absurd hnil hne
  · refine ⟨record, hr, field, rfl, ?_⟩
    simp only [Record.isBreaking, Bool.or_eq_true, decide_eq_true_eq] at hbreaking
    rcases hbreaking with (rfl | rfl) | rfl
    · exact absurd hm ((hlacks record hr).1 field)
    · exact hm
    · exact absurd hm ((hlacks record hr).2 field)

/-- Writing a request again after reading gives the normal form of its bytes, unless a field holds
a carriage return, which is not sent. The normal form is no longer than the bytes, is read as the
same request and is its own normal form, and it is as long exactly if it differs from the bytes in
the case of the kind only. -/
theorem decode_encode_normalForm {bytes : Bytes} {request : Request} {consumed : Nat}
    (h : decode bytes = .complete request consumed) :
    request.records ≠ [] ∧
      (∀ record ∈ request.records, record.Lacks ',' ∧ record.Lacks '\n') ∧
      ((∃ record ∈ request.records, ∃ field,
          request.encode = .error (.invalidField field (record.get field)) ∧
            '\r' ∈ (record.get field).toList ∧ ',' ∉ (record.get field).toList ∧
              '\n' ∉ (record.get field).toList) ∨
        ∃ wire, request.encode = .ok wire ∧ wire = normalForm (bytes.take consumed) ∧
          wire.length ≤ consumed ∧ decode wire = .complete request wire.length ∧
          (∀ again size, decode wire = .complete again size → again.encode = .ok wire) ∧
          (wire.length = consumed ↔ SameButKindCase (bytes.take consumed) wire)) := by
  obtain ⟨hne, hlacks⟩ := records_of_decode h
  refine ⟨hne, hlacks, ?_⟩
  cases hf : request.fault? with
  | some error =>
    left
    obtain ⟨record, hr, field, rfl, hreturn⟩ := carriageReturn_of_decode h hf
    exact ⟨record, hr, field, Request.encode_eq_error_iff.mpr hf, hreturn,
      (hlacks record hr).1 field, (hlacks record hr).2 field⟩
  | none =>
    right
    have hwire := normalForm_of_decode h
    have hencode := Request.encode_eq_ok_iff.mpr ⟨hf, rfl⟩
    have hread := decode_wire (Request.representable_of_fault? hf) (count_le_of_decode h)
    refine ⟨request.wire, hencode, hwire.symm, ?_, hread, fun again size hagain => ?_, ?_⟩
    · have hlength := length_normalForm_le (bytes.take consumed)
      rw [hwire, List.length_take] at hlength
      omega
    · obtain ⟨rfl, -⟩ := Verdict.complete.inj (hread.symm.trans hagain)
      exact hencode
    · rw [← hwire]
      exact length_normalForm_eq_iff h

/-- A request in capitals, with a plus sign, a leading zero and carriage returns in terminators. -/
def liberties : Bytes := Utf8.encode "GRAPH\r\n+01\r\ni,m,s,u,n\nDone\r\nrest"

/-- The liberties are gone when the request is written again. A carriage return that is left in a
field keeps a request from being written. -/
theorem decode_encode_normalForm_liberties :
    (decode liberties = .complete ⟨.graph, [⟨"i", "m", "s", "u", "n"⟩]⟩ 28 ∧
        ∃ wire, Request.encode ⟨.graph, [⟨"i", "m", "s", "u", "n"⟩]⟩ = .ok wire ∧
          wire = normalForm (liberties.take 28) ∧ wire.length = 23 ∧
          ¬ SameButKindCase (liberties.take 28) wire) ∧
      decode (Utf8.encode "quality\n1\ni\rd,m,s,u,n\nDone\n") =
          .complete ⟨.quality, [⟨"i\rd", "m", "s", "u", "n"⟩]⟩ 27 ∧
        ∃ field value, Request.encode ⟨.quality, [⟨"i\rd", "m", "s", "u", "n"⟩]⟩ =
            .error (.invalidField field value) ∧ '\r' ∈ value.toList := by
  constructor
  · have hread : decode liberties = .complete ⟨.graph, [⟨"i", "m", "s", "u", "n"⟩]⟩ 28 := by
      decide +kernel
    have hwritten : Request.encode ⟨.graph, [⟨"i", "m", "s", "u", "n"⟩]⟩ =
        .ok (Utf8.encode "graph\n1\ni,m,s,u,n\nDone\n") := by decide +kernel
    obtain ⟨-, -, ⟨_, -, _, herror, -⟩ | ⟨wire, hencode, hnormal, -, -, -, hsame⟩⟩ :=
      decode_encode_normalForm hread
    · rw [hwritten] at herror
      contradiction
    · have hlength : wire.length = 23 := by
        rw [hwritten] at hencode
        obtain rfl := Except.ok.inj hencode
        decide +kernel
      rw [hlength] at hsame
      exact ⟨hread, wire, hencode, hnormal, hlength, fun hs => absurd (hsame.mpr hs) (by decide)⟩
  · have hread : decode (Utf8.encode "quality\n1\ni\rd,m,s,u,n\nDone\n") =
        .complete ⟨.quality, [⟨"i\rd", "m", "s", "u", "n"⟩]⟩ 27 := by decide +kernel
    obtain ⟨-, -, ⟨_, -, field, herror, hreturn, -⟩ | ⟨wire, hencode, -⟩⟩ :=
      decode_encode_normalForm hread
    · exact ⟨hread, field, _, herror, hreturn⟩
    · have hrefused : Request.fault? ⟨.quality, [⟨"i\rd", "m", "s", "u", "n"⟩]⟩ =
          some (.invalidField .identifier "i\rd") := by decide +kernel
      rw [Request.encode_eq_error_iff.mpr hrefused] at hencode
      contradiction

end AssessmentRequest.Wire

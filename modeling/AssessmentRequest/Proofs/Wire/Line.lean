import AssessmentRequest.Wire.Line
import AssessmentRequest.Proofs.Text.Ascii

/-!
# Lines of a growing buffer

More bytes leave the lines that are there as they are and may add to them. A raw line carries
a text when its bytes are those of the text, perhaps with a carriage return after them.

Main statements: `split_append`, `length_split`, `lines_take_prefix`, `carries_iff` and
`returnsPaired_flatMap_iff`.
-/

namespace AssessmentRequest.Wire

/-- The line feed is one byte of an encoded text wherever the text holds one. -/
theorem lineFeed_mem_encode_iff (text : String) :
    lineFeed ∈ Utf8.encode text ↔ '\n' ∈ text.toList :=
  Utf8.asciiByte_mem_encode_iff '\n' (by decide) text

/-- The carriage return is one byte of an encoded text wherever the text holds one. -/
theorem carriageReturn_mem_encode_iff (text : String) :
    carriageReturn ∈ Utf8.encode text ↔ '\r' ∈ text.toList :=
  Utf8.asciiByte_mem_encode_iff '\r' (by decide) text

/-- Bytes that arrive later only continue the unterminated rest. -/
theorem split_append (bytes more : Bytes) :
    split (bytes ++ more) =
      ((split bytes).1 ++ (split ((split bytes).2 ++ more)).1,
        (split ((split bytes).2 ++ more)).2) := by
  have hb := flatMap_split bytes
  have hl : ∀ raw ∈ (split bytes).1, lineFeed ∉ raw :=
    fun _ hr => lineFeed_not_mem_of_mem_split hr
  rw [← split_terminated_append hl, ← List.append_assoc, hb]

/-- The lines of the bytes so far are the first lines of all the bytes. -/
theorem lines_prefix_append (bytes more : Bytes) :
    (split bytes).1 <+: (split (bytes ++ more)).1 := by
  rw [split_append]
  exact List.prefix_append _ _

/-- Terminated lines alone have no rest. -/
theorem split_terminated {lines : List Bytes} (h : ∀ raw ∈ lines, lineFeed ∉ raw) :
    split (lines.flatMap terminate) = (lines, []) := by
  have hs := split_terminated_append h []
  simpa [split] using hs

/-- There are as many lines as line feeds. -/
theorem length_split (bytes : Bytes) : (split bytes).1.length = bytes.count lineFeed := by
  induction bytes with
  | nil => rfl
  | cons byte rest ih =>
    rw [split, List.count_cons]
    split
    · next h => simp [h, ih]
    · next h =>
      split
      · next found => simp [h, ← ih, found]
      · next found => simp [h, ← ih, found]

/-- Bytes without line feeds hold no line. -/
theorem lines_eq_nil_of_not_mem {bytes : Bytes} (h : lineFeed ∉ bytes) : (split bytes).1 = [] := by
  apply List.eq_nil_of_length_eq_zero
  rw [length_split, List.count_eq_zero_of_not_mem h]

/-- A cut before the end of the last of some lines leaves at most the lines before it. -/
theorem lines_take_prefix {lines : List Bytes} {last : Bytes}
    (h : ∀ raw ∈ lines ++ [last], lineFeed ∉ raw) {cut : Nat}
    (hc : cut < ((lines ++ [last]).flatMap terminate).length) :
    (split (((lines ++ [last]).flatMap terminate).take cut)).1 <+: lines := by
  let whole := (lines ++ [last]).flatMap terminate
  have hp : (split (whole.take cut)).1 <+: lines ++ [last] := by
    have hw := lines_prefix_append (whole.take cut) (whole.drop cut)
    rwa [List.take_append_drop, split_terminated h] at hw
  rcases List.prefix_concat_iff.mp hp with he | hl
  · -- all the lines would need all their bytes
    have hb := congrArg List.length (flatMap_split (whole.take cut))
    rw [he, List.length_append, List.length_take] at hb
    omega
  · exact hl

/-- A raw line carries a text: it is the bytes of the text, with or without a carriage return
after them. Where no carriage return is taken off, the line does not end with one. -/
def Carries (raw : Bytes) (text : String) : Prop :=
  raw = Utf8.encode text ++ [carriageReturn] ∨
    raw = Utf8.encode text ∧ raw.getLast? ≠ some carriageReturn

/-- The text carried is what is left when one carriage return has been taken off. -/
theorem carries_iff {raw : Bytes} {text : String} :
    Carries raw text ↔ dropReturn raw = Utf8.encode text := by
  unfold Carries dropReturn
  constructor
  · intro h
    rcases h with rfl | ⟨rfl, hr⟩
    · rw [if_pos List.getLast?_concat, List.dropLast_concat]
    · rw [if_neg hr]
  · intro h
    split at h
    · next hr =>
      obtain ⟨before, rfl⟩ := List.getLast?_eq_some_iff.mp hr
      rw [List.dropLast_concat] at h
      exact .inl (by rw [h])
    · next hr => exact .inr ⟨h, hr⟩

/-- A raw line carries one text only. -/
theorem Carries.unique {raw : Bytes} {text other : String} (h : Carries raw text)
    (ho : Carries raw other) : text = other :=
  Utf8.encode_injective ((carries_iff.mp h).symm.trans (carries_iff.mp ho))

/-- A raw line without line feeds carries a text without them. -/
theorem Carries.lineFeed_not_mem {raw : Bytes} {text : String} (h : Carries raw text)
    (hraw : lineFeed ∉ raw) : '\n' ∉ text.toList := by
  rw [← lineFeed_mem_encode_iff]
  rcases h with rfl | ⟨rfl, -⟩
  · exact fun hm => hraw (List.mem_append_left _ hm)
  · exact hraw

/-- A text without carriage returns is carried by its own bytes. -/
theorem carries_encode {text : String} (h : '\r' ∉ text.toList) :
    Carries (Utf8.encode text) text := by
  right
  refine ⟨rfl, fun hl => h ?_⟩
  exact (carriageReturn_mem_encode_iff text).mp (List.mem_of_getLast? hl)

/-- Every carriage return stands directly before a line feed. -/
def ReturnsPaired (bytes : Bytes) : Prop :=
  ∀ before after, bytes = before ++ carriageReturn :: after → after.head? = some lineFeed

theorem returnsPaired_nil : ReturnsPaired [] := by
  intro before after h
  simp at h

/-- One byte more in front asks for its own neighbour only. -/
theorem returnsPaired_cons_iff {byte : UInt8} {rest : Bytes} :
    ReturnsPaired (byte :: rest) ↔
      (byte = carriageReturn → rest.head? = some lineFeed) ∧ ReturnsPaired rest := by
  constructor
  · intro h
    constructor
    · rintro rfl
      exact h [] rest rfl
    · intro before after he
      subst he
      exact h (byte :: before) after rfl
  · intro h before after he
    obtain ⟨hb, hr⟩ := h
    cases before with
    | nil =>
      obtain ⟨rfl, rfl⟩ := List.cons.inj he
      exact hb rfl
    | cons first before =>
      obtain ⟨-, rfl⟩ := List.cons.inj he
      exact hr before after rfl

/-- Only the last byte of a line can be the carriage return of its terminator. -/
theorem dropReturn_cons_cons (byte next : UInt8) (rest : Bytes) :
    dropReturn (byte :: next :: rest) = byte :: dropReturn (next :: rest) := by
  unfold dropReturn
  rw [List.getLast?_cons_cons, List.dropLast_cons_cons]
  split <;> rfl

theorem terminate_nil : terminate [] = [lineFeed] := rfl

theorem terminate_cons (byte : UInt8) (raw : Bytes) :
    terminate (byte :: raw) = byte :: terminate raw := rfl

/-- In front of other bytes, the carriage returns of a line are paired exactly if none is left
when one has been taken off its end. -/
theorem returnsPaired_terminate_append_iff {raw : Bytes} (h : lineFeed ∉ raw) (rest : Bytes) :
    ReturnsPaired (terminate raw ++ rest) ↔
      carriageReturn ∉ dropReturn raw ∧ ReturnsPaired rest := by
  have hend : ReturnsPaired (lineFeed :: rest) ↔ ReturnsPaired rest := by
    have hne : lineFeed ≠ carriageReturn := by decide
    simp only [returnsPaired_cons_iff, hne, false_implies, true_and]
  induction raw with
  | nil =>
    rw [terminate_nil, List.singleton_append, hend]
    simp [dropReturn]
  | cons byte raw ih =>
    have hraw : lineFeed ∉ raw := fun hm => h (List.mem_cons_of_mem _ hm)
    cases raw with
    | nil =>
      rw [terminate_cons, terminate_nil, List.cons_append, List.singleton_append,
        returnsPaired_cons_iff, hend]
      by_cases hb : byte = carriageReturn
      · simp [dropReturn, hb]
      · simp [dropReturn, hb, Ne.symm hb]
    | cons next raw =>
      have hn : next ≠ lineFeed := fun he => hraw (he ▸ List.mem_cons_self ..)
      have hb : (byte = carriageReturn → (terminate (next :: raw) ++ rest).head? = some lineFeed) ↔
          carriageReturn ≠ byte := by
        simp [terminate, hn, eq_comm]
      have hi : ReturnsPaired (terminate (next :: raw) ++ rest) ↔
          carriageReturn ∉ dropReturn (next :: raw) ∧ ReturnsPaired rest := ih hraw
      rw [terminate_cons, List.cons_append, returnsPaired_cons_iff, hb, hi,
        dropReturn_cons_cons, List.mem_cons, not_or, and_assoc]

/-- In whole lines every carriage return is paired exactly if no text carried holds one. -/
theorem returnsPaired_flatMap_iff {lines : List Bytes} (h : ∀ raw ∈ lines, lineFeed ∉ raw) :
    ReturnsPaired (lines.flatMap terminate) ↔
      ∀ raw ∈ lines, carriageReturn ∉ dropReturn raw := by
  induction lines with
  | nil => simp [returnsPaired_nil]
  | cons raw lines ih =>
    obtain ⟨hraw, hlines⟩ := List.forall_mem_cons.mp h
    rw [List.flatMap_cons, returnsPaired_terminate_append_iff hraw, ih hlines,
      List.forall_mem_cons]

end AssessmentRequest.Wire

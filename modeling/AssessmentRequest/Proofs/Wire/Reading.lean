import AssessmentRequest.Wire.Decoding
import AssessmentRequest.Proofs.Wire.Line

/-!
# Reading line after line

Reading takes lines as long as each of them only asks for another one. The first line that
does not, because it is wrong or completes a request, gives the verdict, whatever comes after
it; without such a line more bytes are needed.

Main statements: `readLines_eq_iff`, `decode_eq_iff` and `decode_eq_incomplete_iff`.
-/

namespace AssessmentRequest.Wire

/-- All the raw lines are taken in turn, and another one is asked for after each. -/
inductive Passes : Awaiting → List Bytes → Awaiting → Prop where
  /-- No line has come. -/
  | nil (awaiting : Awaiting) : Passes awaiting [] awaiting
  /-- The first line is taken, then the others. -/
  | cons {awaiting next last : Awaiting} {raw : Bytes} {lines : List Bytes} :
    awaiting.accept raw = .ok (.next next) → Passes next lines last →
      Passes awaiting (raw :: lines) last

/-- The verdict that a line gives by itself, `none` if it asks for another line. The request
that it may complete is made of `consumed` bytes. -/
def Awaiting.verdict? (awaiting : Awaiting) (raw : Bytes) (consumed : Nat) : Option Verdict :=
  match awaiting.accept raw with
  | .error error => some (.error error)
  | .ok (.finished request) => some (.complete request consumed)
  | .ok (.next _) => none

/-- A line completes a request only by finishing it, with the bytes taken so far. -/
theorem Awaiting.verdict?_eq_complete_iff {awaiting : Awaiting} {raw : Bytes} {size consumed : Nat}
    {request : Request} :
    awaiting.verdict? raw size = some (.complete request consumed) ↔
      awaiting.accept raw = .ok (.finished request) ∧ consumed = size := by
  unfold verdict?
  split
  · next h => simp only [h, Option.some.injEq, reduceCtorEq, false_and]
  · next h =>
    simp only [h, Option.some.injEq, Verdict.complete.injEq, Except.ok.injEq,
      Step.finished.injEq, eq_comm]
  · next h => simp only [h, reduceCtorEq, Except.ok.injEq, false_and]

/-- A line has the verdict of an error only by being refused with it. -/
theorem Awaiting.verdict?_eq_error_iff {awaiting : Awaiting} {raw : Bytes} {size : Nat}
    {error : LineError} :
    awaiting.verdict? raw size = some (.error error) ↔ awaiting.accept raw = .error error := by
  unfold verdict?
  split
  · next h => simp only [h, Option.some.injEq, Verdict.error.injEq, Except.error.injEq]
  · next h => simp only [h, Option.some.injEq, reduceCtorEq]
  · next h => simp only [h, reduceCtorEq]

/-- A line never has the verdict that more is needed. -/
theorem Awaiting.verdict?_ne_incomplete (awaiting : Awaiting) (raw : Bytes) (size : Nat) :
    awaiting.verdict? raw size ≠ some .incomplete := by
  unfold verdict?
  split <;> simp

/-- The first lines of lines that are taken are taken. -/
theorem Passes.of_append {awaiting last : Awaiting} {lines more : List Bytes}
    (h : Passes awaiting (lines ++ more) last) : ∃ mid, Passes awaiting lines mid := by
  induction lines generalizing awaiting with
  | nil => exact ⟨awaiting, .nil awaiting⟩
  | cons raw lines ih =>
    cases h with
    | cons hraw hrest =>
      obtain ⟨mid, hmid⟩ := ih hrest
      exact ⟨mid, .cons hraw hmid⟩

/-- Behind so many bytes come those of the first line, its line feed and those of the others. -/
theorem add_length_flatMap_cons (start : Nat) (raw : Bytes) (lines : List Bytes) :
    start + ((raw :: lines).flatMap terminate).length =
      start + raw.length + 1 + (lines.flatMap terminate).length := by
  rw [List.flatMap_cons, List.length_append, length_terminate]
  omega

/-- Lines that are taken only move the state and the number of bytes on. -/
theorem readLines_append {awaiting last : Awaiting} {lines : List Bytes}
    (h : Passes awaiting lines last) (start : Nat) (more : List Bytes) :
    readLines awaiting start (lines ++ more) =
      readLines last (start + (lines.flatMap terminate).length) more := by
  induction h generalizing start with
  | nil awaiting => rfl
  | cons hraw hrest ih =>
    rw [List.cons_append, readLines, hraw, add_length_flatMap_cons]
    exact ih _

/-- Lines that are all taken decide nothing. -/
theorem readLines_of_passes {awaiting last : Awaiting} {lines : List Bytes}
    (h : Passes awaiting lines last) (start : Nat) :
    readLines awaiting start lines = .incomplete := by
  have hr := readLines_append h start []
  rwa [List.append_nil] at hr

/-- A line with a verdict of its own gives it to all the bytes that begin with the line. -/
theorem readLines_of_verdict? {awaiting : Awaiting} {raw : Bytes} {start : Nat}
    {verdict : Verdict} (h : awaiting.verdict? raw (start + raw.length + 1) = some verdict)
    (more : List Bytes) : readLines awaiting start (raw :: more) = verdict := by
  unfold Awaiting.verdict? at h
  rw [readLines]
  split at h
  · next hraw => simpa only [hraw, Option.some.injEq] using h
  · next hraw => simpa only [hraw, Option.some.injEq] using h
  · contradiction

/-- Either all lines are taken, or the first one that is not gives a verdict. -/
theorem passes_or_verdict (awaiting : Awaiting) (lines : List Bytes) :
    (∃ last, Passes awaiting lines last) ∨
      ∃ before raw after last, lines = before ++ raw :: after ∧ Passes awaiting before last ∧
        ∀ size, ∃ verdict, last.verdict? raw size = some verdict := by
  induction lines generalizing awaiting with
  | nil => exact .inl ⟨awaiting, .nil awaiting⟩
  | cons raw lines ih =>
    cases hraw : awaiting.accept raw with
    | error error =>
      right
      refine ⟨[], raw, lines, awaiting, rfl, .nil awaiting, fun size => ⟨.error error, ?_⟩⟩
      rw [Awaiting.verdict?, hraw]
    | ok step =>
      cases step with
      | finished request =>
        right
        refine ⟨[], raw, lines, awaiting, rfl, .nil awaiting,
          fun size => ⟨.complete request size, ?_⟩⟩
        rw [Awaiting.verdict?, hraw]
      | next next =>
        rcases ih next with ⟨last, hl⟩ | ⟨before, line, after, last, rfl, hb, hv⟩
        · exact .inl ⟨last, .cons hraw hl⟩
        · exact .inr ⟨raw :: before, line, after, last, rfl, .cons hraw hb, hv⟩

/-- The bytes of some lines and of one more. -/
theorem length_flatMap_concat (lines : List Bytes) (raw : Bytes) :
    ((lines ++ [raw]).flatMap terminate).length =
      (lines.flatMap terminate).length + raw.length + 1 := by
  rw [List.flatMap_append, List.length_append, List.flatMap_singleton, length_terminate]
  omega

/-- The verdict on some lines is that of the first line that is not just taken. -/
theorem readLines_eq_iff {awaiting : Awaiting} {start : Nat} {lines : List Bytes}
    {verdict : Verdict} (hv : verdict ≠ .incomplete) :
    readLines awaiting start lines = verdict ↔
      ∃ before raw after last, lines = before ++ raw :: after ∧ Passes awaiting before last ∧
        last.verdict? raw (start + ((before ++ [raw]).flatMap terminate).length) =
          some verdict := by
  constructor
  · intro h
    rcases passes_or_verdict awaiting lines with ⟨last, hl⟩ | ⟨before, raw, after, last, he, hb, hd⟩
    · exact absurd ((readLines_of_passes hl start).symm.trans h).symm hv
    · refine ⟨before, raw, after, last, he, hb, ?_⟩
      obtain ⟨own, ho⟩ := hd (start + ((before ++ [raw]).flatMap terminate).length)
      have hr := ho
      rw [length_flatMap_concat, ← Nat.add_assoc, ← Nat.add_assoc] at hr
      have hown := readLines_of_verdict? hr after
      rw [← readLines_append hb, ← he, h] at hown
      rwa [hown]
  · intro h
    obtain ⟨before, raw, after, last, rfl, hb, hd⟩ := h
    rw [length_flatMap_concat, ← Nat.add_assoc, ← Nat.add_assoc] at hd
    rw [readLines_append hb]
    exact readLines_of_verdict? hd after

/-- Bytes have a verdict exactly if they begin with lines that are taken and one line that
gives it. Nothing after that line matters. -/
theorem decode_eq_iff {bytes : Bytes} {verdict : Verdict} (hv : verdict ≠ .incomplete) :
    decode bytes = verdict ↔
      ∃ before raw rest last, bytes = (before ++ [raw]).flatMap terminate ++ rest ∧
        (∀ line ∈ before ++ [raw], lineFeed ∉ line) ∧ Passes .kind before last ∧
        last.verdict? raw ((before ++ [raw]).flatMap terminate).length = some verdict := by
  rw [decode, readLines_eq_iff hv]
  simp only [Nat.zero_add]
  constructor
  · intro h
    obtain ⟨before, raw, after, last, he, hb, hd⟩ := h
    have hs := flatMap_split bytes
    have hl : ∀ line ∈ (split bytes).1, lineFeed ∉ line :=
      fun _ hm => lineFeed_not_mem_of_mem_split hm
    rw [he, List.append_cons] at hs hl
    refine ⟨before, raw, after.flatMap terminate ++ (split bytes).2, last, ?_, ?_, hb, hd⟩
    · rw [← List.append_assoc, ← List.flatMap_append, hs]
    · exact fun line hm => hl line (List.mem_append_left _ hm)
  · intro h
    obtain ⟨before, raw, rest, last, rfl, hl, hb, hd⟩ := h
    refine ⟨before, raw, (split rest).1, last, ?_, hb, hd⟩
    rw [split_terminated_append hl, List.append_assoc, List.singleton_append]

/-- More bytes are needed exactly as long as every line is taken. -/
theorem decode_eq_incomplete_iff {bytes : Bytes} :
    decode bytes = .incomplete ↔ ∃ last, Passes .kind (split bytes).1 last := by
  constructor
  · intro h
    rcases passes_or_verdict .kind (split bytes).1 with hp | ⟨before, raw, after, last, he, hb, hd⟩
    · exact hp
    · obtain ⟨own, ho⟩ := hd (0 + ((before ++ [raw]).flatMap terminate).length)
      have hne : own ≠ .incomplete := by
        rintro rfl
        exact Awaiting.verdict?_ne_incomplete _ _ _ ho
      have hr := (readLines_eq_iff hne).mpr ⟨before, raw, after, last, he, hb, ho⟩
      rw [decode, hr] at h
      exact absurd h hne
  · intro h
    obtain ⟨last, hl⟩ := h
    exact readLines_of_passes hl 0

end AssessmentRequest.Wire

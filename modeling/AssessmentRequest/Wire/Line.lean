import AssessmentRequest.Text.Utf8

/-!
# Lines of a byte stream

A line ends with a line feed. One carriage return directly before it belongs to the
terminator. Bytes after the last line feed are no line yet.

Main statements: `flatMap_split` (nothing is lost), `lineFeed_not_mem_of_mem_split`
(a line holds no line feed) and `split_terminated_append`.
-/

namespace AssessmentRequest.Wire

/-- The byte that ends a line. -/
def lineFeed : UInt8 := 10

/-- The byte that may stand before a line feed. -/
def carriageReturn : UInt8 := 13

/-- A raw line with its line feed. -/
def terminate (raw : Bytes) : Bytes := raw ++ [lineFeed]

/-- The raw lines of some bytes, without their line feeds, and the unterminated rest. -/
def split : Bytes → List Bytes × Bytes
  | [] => ([], [])
  | byte :: rest =>
    if byte = lineFeed then ([] :: (split rest).1, (split rest).2)
    else
      match split rest with
      | ([], tail) => ([], byte :: tail)
      | (raw :: lines, tail) => ((byte :: raw) :: lines, tail)

/-- A raw line without the carriage return of its terminator. -/
def dropReturn (raw : Bytes) : Bytes :=
  if raw.getLast? = some carriageReturn then raw.dropLast else raw

@[simp] theorem length_terminate (raw : Bytes) : (terminate raw).length = raw.length + 1 := by
  simp [terminate]

/-- The lines with their line feeds and the rest are the bytes again. -/
theorem flatMap_split (bytes : Bytes) :
    (split bytes).1.flatMap terminate ++ (split bytes).2 = bytes := by
  induction bytes with
  | nil => rfl
  | cons byte rest ih =>
    unfold split
    split
    · next h => simpa [terminate, h] using ih
    · split
      · next h => simpa [h] using ih
      · next h => simpa [h, terminate] using ih

/-- The unterminated rest holds no line feed. -/
theorem lineFeed_not_mem_split_rest (bytes : Bytes) : lineFeed ∉ (split bytes).2 := by
  induction bytes with
  | nil => simp [split]
  | cons byte rest ih =>
    unfold split
    split
    · exact ih
    · next h =>
      split
      · next found =>
        rw [found] at ih
        simpa [Ne.symm h] using ih
      · next found =>
        rw [found] at ih
        exact ih

/-- A line holds no line feed. -/
theorem lineFeed_not_mem_of_mem_split {bytes raw : Bytes} (h : raw ∈ (split bytes).1) :
    lineFeed ∉ raw := by
  induction bytes generalizing raw with
  | nil => simp [split] at h
  | cons byte rest ih =>
    unfold split at h
    split at h
    · rcases List.mem_cons.mp h with rfl | h
      · simp
      · exact ih h
    · next different =>
      split at h
      · simp at h
      · next found =>
        rw [found] at ih
        rcases List.mem_cons.mp h with rfl | h
        · simpa [Ne.symm different] using ih (List.mem_cons_self ..)
        · exact ih (List.mem_cons_of_mem _ h)

/-- A terminated line in front of other bytes is their first line. -/
theorem split_terminate_append {raw : Bytes} (h : lineFeed ∉ raw) (rest : Bytes) :
    split (terminate raw ++ rest) = (raw :: (split rest).1, (split rest).2) := by
  induction raw with
  | nil => simp [terminate, split]
  | cons byte raw ih =>
    have different : byte ≠ lineFeed := fun e => h (e ▸ List.mem_cons_self ..)
    have tail := ih fun e => h (List.mem_cons_of_mem _ e)
    simp only [terminate, List.cons_append] at tail ⊢
    rw [split, if_neg different, tail]

/-- Terminated lines in front of other bytes are their first lines. -/
theorem split_terminated_append {lines : List Bytes} (h : ∀ raw ∈ lines, lineFeed ∉ raw)
    (rest : Bytes) :
    split (lines.flatMap terminate ++ rest) = (lines ++ (split rest).1, (split rest).2) := by
  induction lines with
  | nil => simp
  | cons raw lines ih =>
    have tail := ih fun line member => h line (List.mem_cons_of_mem _ member)
    simp only [List.flatMap_cons, List.append_assoc]
    rw [split_terminate_append (h raw (List.mem_cons_self ..)), tail]
    simp

end AssessmentRequest.Wire

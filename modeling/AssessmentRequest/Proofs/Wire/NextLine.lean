import AssessmentRequest.Wire.Cursor
import AssessmentRequest.Proofs.Wire.Line

/-!
# The line at an offset

A line that is read from an offset ends with the first line feed there, and the next line starts
just past it. The text of the line is what the bytes between carry, and where they carry none the
line is refused.

Main statements: `nextLine?_of_firstLineFeed`, `nextLine?_eq_none_iff`, `nextLine?_eq_ok_iff`,
`nextLine?_eq_error_iff` and `lineFrom_nextLine?`.
-/

namespace AssessmentRequest.Wire

/-- The first line feed at or after an offset stands at this position. -/
structure FirstLineFeed (buffer : Bytes) (start position : Nat) : Prop where
  /-- The position is not before the offset. -/
  start_le : start ≤ position
  /-- A line feed stands there. -/
  found : buffer[position]? = some lineFeed
  /-- None stands between the two. -/
  first : lineFeed ∉ buffer.extract start position

/-- Where a line feed follows an offset, there is a first one. -/
theorem exists_firstLineFeed {buffer : Bytes} {start : Nat} (h : lineFeed ∈ buffer.drop start) :
    ∃ position, FirstLineFeed buffer start position := by
  obtain ⟨raw, rest, hdrop, hraw⟩ := List.eq_append_cons_of_mem h
  refine ⟨start + raw.length, ?_⟩
  constructor
  case start_le => exact Nat.le_add_right _ _
  case found =>
    rw [← List.getElem?_drop, hdrop, List.getElem?_append_right (Nat.le_refl _), Nat.sub_self]
    rfl
  case first =>
    rw [List.extract, hdrop, Nat.add_sub_cancel_left, List.take_left]
    exact hraw

namespace FirstLineFeed

variable {buffer : Bytes} {start position : Nat}

/-- The line feed stands inside the buffer. -/
theorem lt_length (h : FirstLineFeed buffer start position) : position < buffer.length := by
  obtain ⟨hlt, -⟩ := List.getElem?_eq_some_iff.mp h.found
  exact hlt

/-- A search from the offset finds the first line feed. -/
theorem idxOf?_eq (h : FirstLineFeed buffer start position) :
    (buffer.drop start).idxOf? lineFeed = some (position - start) := by
  have hle := h.start_le
  have hlt := h.lt_length
  obtain ⟨_, hfound⟩ := List.getElem?_eq_some_iff.mp h.found
  rw [List.idxOf?_eq_some_iff]
  refine ⟨by rw [List.length_drop]; omega, ?_, fun earlier hearlier heq => h.first ?_⟩
  · simpa only [List.getElem_drop, Nat.add_sub_cancel' hle] using hfound
  · exact List.mem_take_iff_getElem.mpr ⟨earlier, by rw [List.length_drop]; omega, heq⟩

/-- From the offset on the buffer is the raw line, its line feed and what comes after. -/
theorem drop_eq (h : FirstLineFeed buffer start position) :
    buffer.drop start =
      terminate (buffer.extract start position) ++ buffer.drop (position + 1) := by
  have hle := h.start_le
  have hlt := h.lt_length
  obtain ⟨_, hfound⟩ := List.getElem?_eq_some_iff.mp h.found
  have hrest : (buffer.drop start).drop (position - start) =
      lineFeed :: buffer.drop (position + 1) := by
    rw [List.drop_drop, Nat.add_sub_cancel' hle, List.drop_eq_getElem_cons hlt, hfound]
  rw [terminate, List.append_assoc, List.singleton_append, ← hrest]
  exact (List.take_append_drop _ _).symm

/-- The raw line reaches from the offset to the line feed. -/
theorem length_extract (h : FirstLineFeed buffer start position) :
    start + (buffer.extract start position).length = position := by
  have hle := h.start_le
  have hlt := h.lt_length
  rw [List.length_take, List.length_drop]
  omega

/-- The raw line takes one line feed of the buffer. -/
theorem count_take (h : FirstLineFeed buffer start position) :
    (buffer.take (position + 1)).count lineFeed = (buffer.take start).count lineFeed + 1 := by
  have hle := h.start_le
  have hlength := h.length_extract
  have htake : buffer.take (position + 1) =
      buffer.take start ++ terminate (buffer.extract start position) := by
    have hsum : position + 1 = start + (terminate (buffer.extract start position)).length := by
      rw [length_terminate]
      omega
    rw [hsum, List.take_add, h.drop_eq, List.take_left]
  rw [htake, terminate, List.count_append, List.count_append, List.count_eq_zero_of_not_mem h.first,
    List.count_singleton_self]

end FirstLineFeed

/-- A text is read from a raw line exactly if the line carries it. -/
theorem readText_eq_ok_iff {raw : Bytes} {behind next : Nat} {line : String} :
    readText raw behind = .ok (line, next) ↔ Carries raw line ∧ next = behind := by
  rw [carries_iff, ← Utf8.decode?_eq_some_iff, readText]
  cases Utf8.decode? (dropReturn raw) <;> simp [eq_comm]

/-- A raw line is refused exactly if it carries no text. -/
theorem readText_eq_error_iff {raw : Bytes} {behind : Nat} {error : LineError} :
    readText raw behind = .error error ↔
      error = .invalidUtf8 ∧ ∀ text, ¬ Carries raw text := by
  simp only [carries_iff, ← Utf8.decode?_eq_some_iff, readText]
  cases Utf8.decode? (dropReturn raw) <;> simp [eq_comm]

/-- The line behind an offset is read from the bytes up to the first line feed, and the next one
starts just past it. -/
theorem nextLine?_of_firstLineFeed {buffer : Bytes} {start position : Nat}
    (h : FirstLineFeed buffer start position) :
    nextLine? buffer start = some (readText (buffer.extract start position) (position + 1)) := by
  have hle := h.start_le
  have hlt := h.lt_length
  have hinside : ¬ buffer.length < start := by omega
  rw [nextLine?, if_neg hinside, h.idxOf?_eq, Option.map_some, Nat.add_sub_cancel' hle]

/-- No line is read exactly if no line feed follows. -/
theorem nextLine?_eq_none_iff {buffer : Bytes} {start : Nat} :
    nextLine? buffer start = none ↔ lineFeed ∉ buffer.drop start := by
  constructor
  · intro h hm
    obtain ⟨position, hfirst⟩ := exists_firstLineFeed hm
    rw [nextLine?_of_firstLineFeed hfirst] at h
    contradiction
  · intro h
    have hnone := List.idxOf?_eq_none_iff.mpr h
    rw [nextLine?, hnone, Option.map_none, ite_self]

/-- Where something is read, a line feed follows. -/
theorem exists_of_nextLine?_eq_some {buffer : Bytes} {start : Nat}
    {read : Except LineError (String × Nat)} (h : nextLine? buffer start = some read) :
    ∃ position, FirstLineFeed buffer start position := by
  refine exists_firstLineFeed (Classical.not_not.mp fun hm => ?_)
  rw [nextLine?_eq_none_iff.mpr hm] at h
  contradiction

/-- A text is read exactly if the bytes up to the first line feed carry it. -/
theorem nextLine?_eq_ok_iff {buffer : Bytes} {start next : Nat} {line : String} :
    nextLine? buffer start = some (.ok (line, next)) ↔
      ∃ position, FirstLineFeed buffer start position ∧
        Carries (buffer.extract start position) line ∧ next = position + 1 := by
  constructor
  · intro h
    obtain ⟨position, hfirst⟩ := exists_of_nextLine?_eq_some h
    rw [nextLine?_of_firstLineFeed hfirst, Option.some.injEq] at h
    exact ⟨position, hfirst, readText_eq_ok_iff.mp h⟩
  · intro h
    obtain ⟨position, hfirst, hread⟩ := h
    rw [nextLine?_of_firstLineFeed hfirst, readText_eq_ok_iff.mpr hread]

/-- A line is refused exactly if the bytes up to the first line feed carry no text. -/
theorem nextLine?_eq_error_iff {buffer : Bytes} {start : Nat} {error : LineError} :
    nextLine? buffer start = some (.error error) ↔
      error = .invalidUtf8 ∧ ∃ position, FirstLineFeed buffer start position ∧
        ∀ text, ¬ Carries (buffer.extract start position) text := by
  constructor
  · intro h
    obtain ⟨position, hfirst⟩ := exists_of_nextLine?_eq_some h
    rw [nextLine?_of_firstLineFeed hfirst, Option.some.injEq] at h
    obtain ⟨herror, hnone⟩ := readText_eq_error_iff.mp h
    exact ⟨herror, position, hfirst, hnone⟩
  · intro h
    obtain ⟨herror, position, hfirst, hnone⟩ := h
    rw [nextLine?_of_firstLineFeed hfirst, readText_eq_error_iff.mpr ⟨herror, hnone⟩]

/-- What comes of reading a line from an offset of a buffer. -/
structure LineFrom (buffer : Bytes) (start : Nat)
    (read : Option (Except LineError (String × Nat))) : Prop where
  /-- There is no line exactly if the offset is past the end or no line feed follows it. -/
  none_iff : read = none ↔ buffer.length < start ∨
    ∀ position, start ≤ position → buffer[position]? ≠ some lineFeed
  /-- Otherwise the line ends with the first line feed, the next one starts just past it, and the
  text is what the bytes between carry. -/
  ok_iff : ∀ line next, read = some (.ok (line, next)) ↔
    ∃ position, FirstLineFeed buffer start position ∧
      Carries (buffer.extract start position) line ∧ next = position + 1
  /-- The only error is that these bytes carry no text. -/
  error_iff : ∀ error, read = some (.error error) ↔
    error = .invalidUtf8 ∧ ∃ position, FirstLineFeed buffer start position ∧
      ∀ text, ¬ Carries (buffer.extract start position) text
  /-- The offset moves on inside the buffer to just past a line feed. -/
  advances : ∀ line next, read = some (.ok (line, next)) →
    start < next ∧ next ≤ buffer.length ∧ buffer[next - 1]? = some lineFeed
  /-- The line holds no line feed, neither in its bytes nor in its text. -/
  unbroken : ∀ line next, read = some (.ok (line, next)) →
    lineFeed ∉ buffer.extract start (next - 1) ∧ '\n' ∉ line.toList
  /-- In a buffer whose length fits 64 bits the sum of the offset, the length of the raw line and
  one is the same in words of 64 bits. -/
  fits : buffer.length < UInt64.size → ∀ line next, read = some (.ok (line, next)) →
    (UInt64.ofNat start + UInt64.ofNat (next - 1 - start)).toNat = next - 1 ∧
      (UInt64.ofNat start + UInt64.ofNat (next - 1 - start) + 1).toNat = next

/-- Reading a line from an offset comes to what it should, for every offset of every buffer. -/
theorem lineFrom_nextLine? (buffer : Bytes) (start : Nat) :
    LineFrom buffer start (nextLine? buffer start) := by
  constructor
  case none_iff =>
    have hdrop : lineFeed ∉ buffer.drop start ↔
        ∀ position, start ≤ position → buffer[position]? ≠ some lineFeed := by
      simp only [List.mem_iff_getElem?, List.getElem?_drop, not_exists]
      constructor
      · intro h position hle
        have hposition := h (position - start)
        rwa [Nat.add_sub_cancel' hle] at hposition
      · exact fun h offset => h (start + offset) (Nat.le_add_right _ _)
    rw [nextLine?_eq_none_iff, ← hdrop]
    constructor
    · exact Or.inr
    · intro h
      rcases h with hpast | hnone
      · rw [List.drop_eq_nil_of_le (Nat.le_of_lt hpast)]
        exact List.not_mem_nil
      · exact hnone
  case ok_iff => exact fun line next => nextLine?_eq_ok_iff
  case error_iff => exact fun error => nextLine?_eq_error_iff
  case advances =>
    intro line next h
    obtain ⟨hlt, hle⟩ := bounds_of_nextLine? h
    obtain ⟨position, hfirst, -, rfl⟩ := nextLine?_eq_ok_iff.mp h
    exact ⟨hlt, hle, hfirst.found⟩
  case unbroken =>
    intro line next h
    obtain ⟨position, hfirst, hcarries, rfl⟩ := nextLine?_eq_ok_iff.mp h
    exact ⟨hfirst.first, hcarries.lineFeed_not_mem hfirst.first⟩
  case fits =>
    intro hsize line next h
    obtain ⟨hlt, hle⟩ := bounds_of_nextLine? h
    have hposition : start + (next - 1 - start) = next - 1 := by omega
    have hnext : next - 1 + 1 = next := by omega
    have hbefore : UInt64.ofNat start + UInt64.ofNat (next - 1 - start) =
        UInt64.ofNat (next - 1) := by
      rw [← UInt64.ofNat_add, hposition]
    have hbehind : UInt64.ofNat (next - 1) + 1 = UInt64.ofNat next := by
      rw [← UInt64.ofNat_one, ← UInt64.ofNat_add, hnext]
    rw [hbefore, hbehind]
    exact ⟨UInt64.toNat_ofNat_of_lt' (by omega), UInt64.toNat_ofNat_of_lt' (by omega)⟩

end AssessmentRequest.Wire

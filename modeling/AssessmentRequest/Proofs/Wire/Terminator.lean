import AssessmentRequest.Proofs.Wire.Grammar

/-!
# Terminators

A line may end with a line feed alone or with a carriage return before it, each line in its own
way. Bytes whose lines are the same without their terminators are read alike, whatever stands in
the unterminated rest: both wait for more, or both have the same error, or both begin with the same
request, made of the first lines of each.

Main statements: `readLines_alike` and `decode_alike_of_same_lines`.
-/

namespace AssessmentRequest.Wire

/-- The verdicts say the same, a complete request each with the number of its own bytes. -/
inductive Verdict.Alike : Verdict → Verdict → Prop where
  /-- Both need more bytes. -/
  | incomplete : Alike .incomplete .incomplete
  /-- Both have the same error. -/
  | error (error : LineError) : Alike (.error error) (.error error)
  /-- Both begin with the same request. -/
  | complete (request : Request) (left right : Nat) :
    Alike (.complete request left) (.complete request right)

/-- A line is taken without the carriage return of its terminator. -/
theorem Awaiting.accept_congr {left right : Bytes} (h : dropReturn left = dropReturn right)
    (awaiting : Awaiting) : awaiting.accept left = awaiting.accept right := by
  rw [accept, accept, h]

/-- Lines that are the same without their terminators lead from the same state to verdicts that
are alike, from wherever they are counted. -/
theorem readLines_alike {left right : List Bytes} (h : left.map dropReturn = right.map dropReturn)
    (awaiting : Awaiting) (leftStart rightStart : Nat) :
    Verdict.Alike (readLines awaiting leftStart left) (readLines awaiting rightStart right) := by
  -- the states stay the same while the numbers of bytes drift apart
  induction left generalizing right awaiting leftStart rightStart with
  | nil =>
    obtain rfl : right = [] := List.map_eq_nil_iff.mp h.symm
    exact .incomplete
  | cons leftLine left ih =>
    cases right with
    | nil => contradiction
    | cons rightLine right =>
      obtain ⟨hline, hothers⟩ := List.cons.inj h
      rw [readLines, readLines, awaiting.accept_congr hline]
      cases awaiting.accept rightLine with
      | error error => exact .error error
      | ok step =>
        cases step with
        | next next => exact ih hothers next _ _
        | finished request => exact .complete request _ _

/-- A complete request is made of its first lines, of which there is one for each record and three
more, with their terminators. -/
theorem consumed_of_decode {bytes : Bytes} {request : Request} {consumed : Nat}
    (h : decode bytes = .complete request consumed) :
    request.count + 3 ≤ (split bytes).1.length ∧
      consumed = (((split bytes).1.take (request.count + 3)).flatMap terminate).length := by
  obtain ⟨raws, texts, rest, rfl, hlines, hcarries, hspelled, rfl⟩ := decode_eq_complete_iff.mp h
  have hlength : raws.length = request.count + 3 := by
    rw [hcarries.length_eq, hspelled.length]
  rw [split_terminated_append hlines, ← hlength, List.take_left, List.length_append]
  exact ⟨Nat.le_add_right _ _, rfl⟩

/-- Bytes whose lines are the same without their terminators have the same verdict: more are
needed for both, or they have the same error, or they begin with the same request, made of the
first lines of each with their own terminators. -/
theorem decode_alike_of_same_lines {left right : Bytes}
    (h : (split left).1.map dropReturn = (split right).1.map dropReturn) :
    (decode left = .incomplete ∧ decode right = .incomplete) ∨
      (∃ error, decode left = .error error ∧ decode right = .error error) ∨
      ∃ request,
        (request.count + 3 ≤ (split left).1.length ∧ request.count + 3 ≤ (split right).1.length) ∧
        decode left = .complete request
          (((split left).1.take (request.count + 3)).flatMap terminate).length ∧
        decode right = .complete request
          (((split right).1.take (request.count + 3)).flatMap terminate).length := by
  have halike : Verdict.Alike (decode left) (decode right) := readLines_alike h .kind 0 0
  generalize hleft : decode left = leftVerdict at halike
  generalize hright : decode right = rightVerdict at halike
  cases halike with
  | incomplete => exact .inl ⟨rfl, rfl⟩
  | error error => exact .inr (.inl ⟨error, rfl, rfl⟩)
  | complete request leftSize rightSize =>
    obtain ⟨hleftLines, hleftSize⟩ := consumed_of_decode hleft
    obtain ⟨hrightLines, hrightSize⟩ := consumed_of_decode hright
    exact .inr (.inr ⟨request, ⟨hleftLines, hrightLines⟩, by rw [hleftSize], by rw [hrightSize]⟩)

/-- Carriage returns in some terminators and one in a field, and a line without terminator. -/
def mixedTerminators : Bytes :=
  Utf8.encode "graph\r\n2\n,,,,\r\r\ni,m,s,u,n\r\nDone\nquality\n1"

/-- The same lines with other terminators, and another rest. -/
def otherTerminators : Bytes :=
  Utf8.encode "graph\n2\r\n,,,,\r\r\ni,m,s,u,n\nDone\nquality\r\n\r"

/-- Both begin with the same request, of as many bytes as its lines take in each. -/
theorem decode_alike_of_same_lines_mixedTerminators :
    (split mixedTerminators).1.map dropReturn = (split otherTerminators).1.map dropReturn ∧
      decode mixedTerminators =
        .complete ⟨.graph, [⟨"", "", "", "", "\r"⟩, ⟨"i", "m", "s", "u", "n"⟩]⟩ 32 ∧
      decode otherTerminators =
        .complete ⟨.graph, [⟨"", "", "", "", "\r"⟩, ⟨"i", "m", "s", "u", "n"⟩]⟩ 31 := by
  have hsame : (split mixedTerminators).1.map dropReturn =
      (split otherTerminators).1.map dropReturn := by decide +kernel
  have hread : decode mixedTerminators =
      .complete ⟨.graph, [⟨"", "", "", "", "\r"⟩, ⟨"i", "m", "s", "u", "n"⟩]⟩ 32 := by
    decide +kernel
  refine ⟨hsame, hread, ?_⟩
  obtain ⟨hincomplete, -⟩ | ⟨error, herror, -⟩ | ⟨request, -, hleft, hright⟩ :=
    decode_alike_of_same_lines hsame
  · rw [hread] at hincomplete
    contradiction
  · rw [hread] at herror
    contradiction
  · obtain ⟨rfl, -⟩ := Verdict.complete.inj (hread.symm.trans hleft)
    have hsize : (((split otherTerminators).1.take (2 + 3)).flatMap terminate).length = 31 := by
      decide +kernel
    exact hright.trans (congrArg _ hsize)

end AssessmentRequest.Wire

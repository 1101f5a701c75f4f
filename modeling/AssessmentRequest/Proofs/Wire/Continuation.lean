import AssessmentRequest.Proofs.Wire.Grammar
import AssessmentRequest.Proofs.Wire.Stability

/-!
# What can still become a request

Whatever lines have been taken, further lines complete a request: those of records without text
until none is missing, and the end line. So of bytes that end with a line feed, no more and no less
than those in error are beyond completion. An error is reported as soon as nothing can follow, and
not before.

Main statements: `completes_completion`, `exists_completion` and `decode_error_iff_hopeless`.
-/

namespace AssessmentRequest.Wire

/-- The lines are taken in turn, and the last of them, but none before it, completes the
request. -/
inductive Completes : Awaiting → List Bytes → Request → Prop where
  /-- One line completes the request. -/
  | last {awaiting : Awaiting} {raw : Bytes} {request : Request} :
    awaiting.accept raw = .ok (.finished request) → Completes awaiting [raw] request
  /-- The first line is taken, and the others complete the request. -/
  | cons {awaiting next : Awaiting} {raw : Bytes} {lines : List Bytes} {request : Request} :
    awaiting.accept raw = .ok (.next next) → Completes next lines request →
      Completes awaiting (raw :: lines) request

/-- Lines that complete a request do so behind the lines that have been taken. -/
theorem Completes.of_passes {awaiting last : Awaiting} {lines more : List Bytes}
    {request : Request} (hp : Passes awaiting lines last) (hc : Completes last more request) :
    Completes awaiting (lines ++ more) request := by
  induction hp with
  | nil awaiting => exact hc
  | cons hraw hrest ih => exact .cons hraw (ih hc)

/-- Lines that complete a request are read as this request. -/
theorem Completes.readLines_eq {awaiting : Awaiting} {lines : List Bytes} {request : Request}
    (h : Completes awaiting lines request) (start : Nat) :
    readLines awaiting start lines =
      .complete request (start + (lines.flatMap terminate).length) := by
  induction h generalizing start with
  | last hraw =>
    rw [readLines, hraw, List.flatMap_singleton, length_terminate, Nat.add_assoc]
  | cons hraw hrest ih =>
    rw [readLines, hraw, add_length_flatMap_cons]
    exact ih _

/-- A record without text. -/
def blankRecord : Record := ⟨"", "", "", "", ""⟩

/-- Lines that complete a request of which so many records are missing. -/
def bodyCompletion (missing : Nat) : List String :=
  List.replicate missing blankRecord.line ++ [done]

/-- Lines that complete a request from each state of the reading. -/
def Awaiting.completion : Awaiting → List String
  | .kind => Kind.default.tag :: "1" :: bodyCompletion 1
  | .count _ => "1" :: bodyCompletion 1
  | .body _ missing _ => bodyCompletion missing

/-- The lines of a completion hold no line break. -/
theorem unbroken_of_mem_completion {awaiting : Awaiting} {line : String}
    (h : line ∈ awaiting.completion) : '\n' ∉ line.toList ∧ '\r' ∉ line.toList := by
  have hbody : ∀ missing, line ∈ bodyCompletion missing →
      '\n' ∉ line.toList ∧ '\r' ∉ line.toList := by
    intro missing hm
    rcases List.mem_append.mp hm with hrecord | hdone
    · rw [List.eq_of_mem_replicate hrecord]
      decide +kernel
    · rw [List.mem_singleton.mp hdone]
      decide
  cases awaiting with
  | kind =>
    simp only [Awaiting.completion, List.mem_cons] at h
    rcases h with rfl | rfl | hm
    · decide
    · decide
    · exact hbody 1 hm
  | count named =>
    rcases List.mem_cons.mp h with rfl | hm
    · decide
    · exact hbody 1 hm
  | body named missing records => exact hbody missing h

/-- What a state asks for is taken from the bytes of a text without carriage returns. -/
theorem Awaiting.accept_encode {awaiting : Awaiting} {text : String} {step : Step}
    (h : '\r' ∉ text.toList) (ht : awaiting.Takes text step) :
    awaiting.accept (Utf8.encode text) = .ok step :=
  Awaiting.accept_eq_ok_iff.mpr ⟨text, carries_encode h, ht⟩

/-- However many records are missing, their lines and the end line complete the request, which
keeps the records that are there. -/
theorem completes_body (named : Kind) (missing : Nat) (records : List Record) :
    Completes (.body named missing records) ((bodyCompletion missing).map Utf8.encode)
      ⟨named, records ++ List.replicate missing blankRecord⟩ := by
  induction missing generalizing records with
  | zero =>
    rw [List.replicate_zero, List.append_nil]
    exact .last (Awaiting.accept_encode (by decide) .done)
  | succ missing ih =>
    have hlacks : blankRecord.Lacks ',' := by
      intro field
      cases field <;> decide
    have hrecords : records ++ List.replicate (missing + 1) blankRecord =
        (records ++ [blankRecord]) ++ List.replicate missing blankRecord := by
      rw [List.replicate_succ, List.append_assoc, List.singleton_append]
    rw [hrecords]
    exact .cons (Awaiting.accept_encode (by decide +kernel) (.record hlacks)) (ih _)

/-- From every state of the reading a request is completed. -/
theorem completes_completion (awaiting : Awaiting) :
    ∃ request, Completes awaiting (awaiting.completion.map Utf8.encode) request := by
  have hcount : ∀ named, Completes (.count named) (("1" :: bodyCompletion 1).map Utf8.encode)
      ⟨named, [blankRecord]⟩ := by
    intro named
    have hone : Numeral.Denotes "1".toList 1 := Numeral.denotes_repr 1
    exact .cons (Awaiting.accept_encode (by decide) (.count hone (by decide) (by decide)))
      (completes_body named 1 [])
  cases awaiting with
  | kind =>
    have hletters : SameLetters Kind.default.tag Kind.default.tag :=
      List.forall₂_same.mpr fun _ _ => rfl
    exact ⟨_, .cons (Awaiting.accept_encode (by decide) (.kind hletters)) (hcount _)⟩
  | count named => exact ⟨_, hcount named⟩
  | body named missing records => exact ⟨_, completes_body named missing records⟩

/-- Bytes that end with a line feed have no unterminated rest. -/
theorem split_rest_eq_nil {bytes : Bytes} (h : bytes = [] ∨ bytes.getLast? = some lineFeed) :
    (split bytes).2 = [] := by
  by_contra hne
  have hbytes := flatMap_split bytes
  rcases h with rfl | hlast
  · exact hne rfl
  · rw [← hbytes, List.getLast?_append_of_ne_nil _ hne] at hlast
    exact lineFeed_not_mem_split_rest bytes (List.mem_of_getLast? hlast)

/-- Incomplete bytes that end with a line feed are completed by bytes that may follow. -/
theorem exists_completion {bytes : Bytes} (haligned : (split bytes).2 = [])
    (h : decode bytes = .incomplete) :
    ∃ more request, decode (bytes ++ more) = .complete request (bytes ++ more).length := by
  obtain ⟨last, hpasses⟩ := decode_eq_incomplete_iff.mp h
  obtain ⟨request, hcompletes⟩ := completes_completion last
  let more := last.completion.map Utf8.encode
  have hwhole : bytes ++ more.flatMap terminate =
      ((split bytes).1 ++ more).flatMap terminate := by
    have hbytes := flatMap_split bytes
    rw [haligned, List.append_nil] at hbytes
    rw [List.flatMap_append, hbytes]
  have hlines : ∀ raw ∈ (split bytes).1 ++ more, lineFeed ∉ raw := by
    intro raw hm
    rcases List.mem_append.mp hm with hread | hadded
    · exact lineFeed_not_mem_of_mem_split hread
    · obtain ⟨line, hl, rfl⟩ := List.mem_map.mp hadded
      rw [lineFeed_mem_encode_iff]
      exact (unbroken_of_mem_completion hl).1
  refine ⟨more.flatMap terminate, request, ?_⟩
  rw [hwhole, decode, split_terminated hlines, (hcompletes.of_passes hpasses).readLines_eq,
    Nat.zero_add]

/-- Of bytes that end with a line feed, exactly those in error are completed by no bytes that may
follow. Incomplete ones are completed, and the request takes all the bytes, whatever number of
records has been announced and however many of them have come. -/
theorem decode_error_iff_hopeless {bytes : Bytes}
    (h : bytes = [] ∨ bytes.getLast? = some lineFeed) :
    ((∃ error, decode bytes = .error error) ↔
        ∀ more request consumed, decode (bytes ++ more) ≠ .complete request consumed) ∧
      (decode bytes = .incomplete →
        ∃ more request, decode (bytes ++ more) = .complete request (bytes ++ more).length) := by
  have hcompletion := exists_completion (split_rest_eq_nil h)
  refine ⟨⟨?_, ?_⟩, hcompletion⟩
  · intro herror more request consumed
    obtain ⟨error, he⟩ := herror
    obtain ⟨offset, hsettled, -⟩ := settled_of_decode Verdict.noConfusion he
    rw [hsettled.lasting more]
    exact Verdict.noConfusion
  · intro hhopeless
    cases hd : decode bytes with
    | complete request consumed =>
      have hself := hhopeless [] request consumed
      rw [List.append_nil] at hself
      exact absurd hd hself
    | incomplete =>
      obtain ⟨more, request, hc⟩ := hcompletion hd
      exact absurd hc (hhopeless more request _)
    | error error => exact ⟨error, rfl⟩

/-- Two records have come of the greatest number that can be announced. -/
def greatestCount : Bytes :=
  Utf8.encode "graph\r\n+18446744073709551615\n,,,,\ni,m,s,u,n\n"

/-- One record more than the greatest number has been announced. -/
def excessiveCount : Bytes := Utf8.encode "graph\r\n18446744073709551616\n"

/-- A request can still come of two records of the greatest number, and none of a number that is
greater. -/
theorem decode_error_iff_hopeless_greatestCount :
    (greatestCount.getLast? = some lineFeed ∧ decode greatestCount = .incomplete ∧
        ∃ more request,
          decode (greatestCount ++ more) = .complete request (greatestCount ++ more).length) ∧
      excessiveCount.getLast? = some lineFeed ∧
        decode excessiveCount = .error (.invalidCount "18446744073709551616") ∧
          ∀ more request consumed, decode (excessiveCount ++ more) ≠ .complete request consumed := by
  have hviableEnd : greatestCount.getLast? = some lineFeed := by decide +kernel
  have hexcessEnd : excessiveCount.getLast? = some lineFeed := by decide +kernel
  have hviable : decode greatestCount = .incomplete := by decide +kernel
  have hexcess : decode excessiveCount = .error (.invalidCount "18446744073709551616") := by
    decide +kernel
  exact ⟨⟨hviableEnd, hviable, (decode_error_iff_hopeless (.inr hviableEnd)).2 hviable⟩,
    hexcessEnd, hexcess, (decode_error_iff_hopeless (.inr hexcessEnd)).1.mp ⟨_, hexcess⟩⟩

end AssessmentRequest.Wire

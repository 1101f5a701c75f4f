import AssessmentRequest.Proofs.Wire.Reading

/-!
# Verdicts on a growing buffer

While bytes arrive, more are needed until the line feed of a certain line is there; from then
on the verdict is the same for ever. No verdict is given early or taken back, wherever the
bytes are cut.

Main statements: `settled_of_decode` and `decode_settles`.
-/

namespace AssessmentRequest.Wire

/-- The verdict on the bytes falls at the offset, which is just past a line feed. -/
structure SettledAt (bytes : Bytes) (verdict : Verdict) (offset : Nat) : Prop where
  /-- At least one byte has come. -/
  positive : 0 < offset
  /-- The bytes reach to the offset. -/
  inside : offset ≤ bytes.length
  /-- The byte before the offset is a line feed. -/
  pastLineFeed : bytes[offset - 1]? = some lineFeed
  /-- With fewer bytes, more are needed. -/
  undecided : ∀ cut, cut < offset → decode (bytes.take cut) = .incomplete
  /-- From the offset on the verdict is there. -/
  decided : ∀ cut, offset ≤ cut → decode (bytes.take cut) = verdict
  /-- Bytes that arrive later change nothing. -/
  lasting : ∀ more, decode (bytes ++ more) = verdict

/-- Lines with their terminators end with a line feed. -/
theorem getElem?_flatMap_concat (lines : List Bytes) (raw rest : Bytes) :
    ((lines ++ [raw]).flatMap terminate ++ rest)[((lines ++ [raw]).flatMap terminate).length - 1]? =
      some lineFeed := by
  have hsplit : (lines ++ [raw]).flatMap terminate =
      (lines.flatMap terminate ++ raw) ++ [lineFeed] := by
    rw [List.flatMap_append, List.flatMap_singleton, terminate, List.append_assoc]
  rw [hsplit, List.append_assoc, List.length_append, List.length_singleton, Nat.add_sub_cancel,
    List.getElem?_append_right (Nat.le_refl _), Nat.sub_self]
  rfl

/-- Every verdict falls at an offset, a complete request at the number of its bytes. -/
theorem settled_of_decode {bytes : Bytes} {verdict : Verdict} (hv : verdict ≠ .incomplete)
    (h : decode bytes = verdict) :
    ∃ offset, SettledAt bytes verdict offset ∧
      ∀ request consumed, verdict = .complete request consumed → offset = consumed := by
  obtain ⟨before, raw, rest, last, rfl, hl, hb, hd⟩ := (decode_eq_iff hv).mp h
  have hsize := length_flatMap_concat before raw
  refine ⟨((before ++ [raw]).flatMap terminate).length, ?_, ?_⟩
  · constructor
    case positive => omega
    case inside =>
      rw [List.length_append]
      exact Nat.le_add_right _ _
    case pastLineFeed => exact getElem?_flatMap_concat before raw rest
    case undecided =>
      -- a shorter prefix has lost the deciding line, and the lines it kept are all taken
      intro cut hcut
      rw [List.take_append_of_le_length (Nat.le_of_lt hcut)]
      obtain ⟨others, hothers⟩ := lines_take_prefix hl hcut
      rw [← hothers] at hb
      exact decode_eq_incomplete_iff.mpr hb.of_append
    case decided =>
      intro cut hcut
      rw [List.take_append, List.take_of_length_le hcut]
      exact (decode_eq_iff hv).mpr ⟨before, raw, _, last, rfl, hl, hb, hd⟩
    case lasting =>
      intro more
      rw [List.append_assoc]
      exact (decode_eq_iff hv).mpr ⟨before, raw, rest ++ more, last, rfl, hl, hb, hd⟩
  · intro request consumed he
    rw [he] at hd
    exact (Awaiting.verdict?_eq_complete_iff.mp hd).2.symm

/-- The first bytes of a stream. -/
def received (stream : Nat → UInt8) (size : Nat) : Bytes := (List.range size).map stream

/-- Fewer bytes of a stream begin more bytes of it. -/
theorem take_received {stream : Nat → UInt8} {size cut : Nat} (h : cut ≤ size) :
    (received stream size).take cut = received stream cut := by
  rw [received, ← List.map_take, List.take_range, Nat.min_eq_left h, received]

/-- The verdicts on a stream are that more is needed for a while, and then one and the same. -/
theorem decode_received (stream : Nat → UInt8) :
    (∀ size, decode (received stream size) = .incomplete) ∨
      ∃ offset verdict, verdict ≠ .incomplete ∧
        ∀ size, decode (received stream size) = if size < offset then .incomplete else verdict := by
  by_cases hall : ∀ size, decode (received stream size) = .incomplete
  · exact .inl hall
  · right
    obtain ⟨enough, hne⟩ := Classical.not_forall.mp hall
    obtain ⟨offset, hs, -⟩ := settled_of_decode hne rfl
    have hinside : offset ≤ enough := by
      have hi := hs.inside
      rwa [received, List.length_map, List.length_range] at hi
    refine ⟨offset, decode (received stream enough), hne, fun size => ?_⟩
    by_cases hsize : size ≤ enough
    · rw [← take_received hsize]
      split
      · next hlt => exact hs.undecided size hlt
      · next hge => exact hs.decided size (Nat.le_of_not_lt hge)
    · have hlarger : enough ≤ size := Nat.le_of_not_le hsize
      have hmore := hs.lasting ((received stream size).drop enough)
      rw [← take_received hlarger, List.take_append_drop, take_received hlarger] at hmore
      rw [hmore, if_neg (by omega)]

/-- Every verdict falls just past the line feed of the line that decides it, a complete request
at the number of its bytes: with fewer bytes more are needed, and with more bytes the verdict is
the same. So the verdicts on a stream are that more is needed for a while, and then one and the
same for ever. -/
theorem decode_settles :
    (∀ bytes request consumed, decode bytes = .complete request consumed →
        SettledAt bytes (.complete request consumed) consumed) ∧
      (∀ bytes error, decode bytes = .error error → ∃ offset, SettledAt bytes (.error error) offset) ∧
      ∀ stream : Nat → UInt8,
        (∀ size, decode (received stream size) = .incomplete) ∨
          ∃ offset verdict, verdict ≠ .incomplete ∧
            ∀ size,
              decode (received stream size) = if size < offset then .incomplete else verdict := by
  refine ⟨?_, ?_, decode_received⟩
  · intro bytes request consumed h
    obtain ⟨offset, hs, hoffset⟩ := settled_of_decode Verdict.noConfusion h
    rwa [hoffset request consumed rfl] at hs
  · intro bytes error h
    obtain ⟨offset, hs, -⟩ := settled_of_decode Verdict.noConfusion h
    exact ⟨offset, hs⟩

/-- A request with bytes behind it settles at its end, and a wrong kind at the end of its line. -/
theorem decode_settles_request_and_error :
    SettledAt (Utf8.encode "graph\n1\ni,m,s,u,n\nDone\nquality")
        (.complete ⟨.graph, [⟨"i", "m", "s", "u", "n"⟩]⟩ 23) 23 ∧
      ∃ offset, SettledAt (Utf8.encode "graphs\r\n1\n") (.error (.unknownKind "graphs")) offset := by
  refine ⟨decode_settles.1 _ _ _ ?_, decode_settles.2.1 _ _ ?_⟩ <;> decide +kernel

end AssessmentRequest.Wire

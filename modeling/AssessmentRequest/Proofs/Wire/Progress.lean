import Mathlib.Data.List.Chain
import AssessmentRequest.Proofs.Wire.Attribution
import AssessmentRequest.Proofs.Wire.NextLine
import AssessmentRequest.Proofs.Wire.Terminator

/-!
# Progress through a buffer

Every line that is read takes one line feed of the buffer and moves the offset past it. A walk
goes through the buffer by such steps, each of them recorded. It therefore reads no more lines than
there are line feeds and collects no more records than that, whatever number of records has been
announced, and its verdict is the verdict on the bytes.

Main statements: `Cursor.follows_walk`, `Cursor.verdict_walk`, `Cursor.Behind.of_advance`,
`Cursor.behind_of_walk`, `progresses_walk` and `decode_progress`.
-/

namespace AssessmentRequest.Wire

/-- The first of the lines behind an offset reaches to the first line feed. -/
theorem split_drop_of_firstLineFeed {buffer : Bytes} {start position : Nat}
    (h : FirstLineFeed buffer start position) :
    (split (buffer.drop start)).1 =
      buffer.extract start position :: (split (buffer.drop (position + 1))).1 := by
  rw [h.drop_eq, split_terminate_append h.first]

/-- A walk is made of single steps, from a first cursor to a verdict. -/
structure Walk.Follows (buffer : Bytes) (first : Cursor) (walk : Walk) : Prop where
  /-- A line is looked for at the first cursor. -/
  begun : walk.cursors.head? = some first
  /-- Each other cursor is where the step from the one before it leads. -/
  steps : walk.cursors.IsChain fun cursor next => cursor.advance buffer = .ok next
  /-- The step from the last cursor has the verdict. -/
  ended : ∃ last, walk.cursors.getLast? = some last ∧ last.advance buffer = .error walk.verdict

namespace Cursor

variable {buffer : Bytes} {cursor next : Cursor}

/-- A cursor before a line feed takes the raw line up to it as its state does. -/
theorem advance_of_firstLineFeed {position : Nat}
    (h : FirstLineFeed buffer cursor.offset position) :
    cursor.advance buffer =
      match cursor.awaiting.accept (buffer.extract cursor.offset position) with
      | .error error => .error (.error error)
      | .ok (.next awaiting) => .ok ⟨position + 1, awaiting⟩
      | .ok (.finished request) => .error (.complete request (position + 1)) := by
  rw [advance, nextLine?_of_firstLineFeed h, readText, Awaiting.accept]
  cases Utf8.decode? (dropReturn (buffer.extract cursor.offset position)) <;> rfl

/-- A walk that moves on goes where the walk from the next cursor goes. -/
theorem walk_of_ok (h : cursor.advance buffer = .ok next) :
    cursor.walk buffer =
      ⟨cursor :: (next.walk buffer).cursors, (next.walk buffer).verdict⟩ := by
  rw [walk]
  split
  · next found =>
    rw [h] at found
    cases found
    rfl
  · next found =>
    rw [h] at found
    contradiction

/-- A walk ends with the first verdict. -/
theorem walk_of_error {verdict : Verdict} (h : cursor.advance buffer = .error verdict) :
    cursor.walk buffer = ⟨[cursor], verdict⟩ := by
  rw [walk]
  split
  · next found =>
    rw [h] at found
    contradiction
  · next found =>
    rw [h] at found
    cases found
    rfl

/-- From each cursor of a walk to the next one it is a step, and the verdict is that of a step from
the last one. -/
theorem follows_walk (buffer : Bytes) (cursor : Cursor) :
    (cursor.walk buffer).Follows buffer cursor := by
  induction cursor using walk.induct buffer with
  | case1 cursor next hnext ih =>
    obtain ⟨last, hlast, hverdict⟩ := ih.ended
    rw [walk_of_ok hnext]
    constructor
    case begun => rfl
    case steps =>
      rw [List.isChain_cons]
      refine ⟨fun found hfound => ?_, ih.steps⟩
      obtain rfl : next = found := Option.some.inj (ih.begun.symm.trans hfound)
      exact hnext
    case ended =>
      refine ⟨last, ?_, hverdict⟩
      rw [List.getLast?_cons, hlast]
      rfl
  | case2 cursor verdict hverdict =>
    rw [walk_of_error hverdict]
    constructor
    case begun => rfl
    case steps => exact List.isChain_singleton cursor
    case ended => exact ⟨cursor, rfl, hverdict⟩

/-- A step that completes a request has read the line at the end of that request. -/
theorem exists_line_of_complete {request : Request} {consumed : Nat}
    (h : cursor.advance buffer = .error (.complete request consumed)) :
    ∃ line, nextLine? buffer cursor.offset = some (.ok (line, consumed)) := by
  unfold advance at h
  split at h
  · cases h
  · cases h
  · next line next hline =>
    split at h
    · cases h
    · cases h
    · cases h
      exact ⟨line, hline⟩

/-- A walk comes to the verdict on the lines that are left. -/
theorem verdict_walk (buffer : Bytes) (cursor : Cursor) :
    (cursor.walk buffer).verdict =
      readLines cursor.awaiting cursor.offset (split (buffer.drop cursor.offset)).1 := by
  -- the cursor moves to the next line as the first of the lines left is taken
  by_cases hm : lineFeed ∈ buffer.drop cursor.offset
  · obtain ⟨position, hfirst⟩ := exists_firstLineFeed hm
    have hadvance := advance_of_firstLineFeed hfirst
    have hlength := hfirst.length_extract
    rw [split_drop_of_firstLineFeed hfirst, readLines, hlength]
    cases haccept : cursor.awaiting.accept (buffer.extract cursor.offset position) with
    | error error =>
      have hverdict : cursor.advance buffer = .error (.error error) := by
        rw [hadvance, haccept]
      rw [walk_of_error hverdict]
    | ok step =>
      cases step with
      | next awaiting =>
        have hnext : cursor.advance buffer = .ok ⟨position + 1, awaiting⟩ := by
          rw [hadvance, haccept]
        rw [walk_of_ok hnext]
        exact verdict_walk buffer ⟨position + 1, awaiting⟩
      | finished request =>
        have hverdict : cursor.advance buffer = .error (.complete request (position + 1)) := by
          rw [hadvance, haccept]
        rw [walk_of_error hverdict]
  · have hverdict : cursor.advance buffer = .error .incomplete := by
      rw [advance, nextLine?_eq_none_iff.mpr hm]
    rw [walk_of_error hverdict, lines_eq_nil_of_not_mem hm, readLines]
termination_by buffer.length - cursor.offset
decreasing_by
  have hbounds := bounds_of_advance hnext
  omega

/-- The cursor stands behind so many lines, and no more records have been read. -/
structure Behind (buffer : Bytes) (lines : Nat) (cursor : Cursor) : Prop where
  /-- The offset is inside the buffer or at its end. -/
  inside : cursor.offset ≤ buffer.length
  /-- There are as many line feeds before the offset. -/
  count : (buffer.take cursor.offset).count lineFeed = lines
  /-- No more records have been read. -/
  records : cursor.awaiting.records.length ≤ lines

/-- Nothing lies before the start. -/
theorem behind_start (buffer : Bytes) : start.Behind buffer 0 := by
  constructor
  case inside => exact Nat.zero_le _
  case count => rfl
  case records => exact Nat.le_refl _

/-- A line adds one record at most. -/
theorem length_records_of_takes {awaiting after : Awaiting} {text : String}
    (h : awaiting.Takes text (.next after)) :
    after.records.length ≤ awaiting.records.length + 1 := by
  cases h with
  | kind => exact Nat.zero_le _
  | count => exact Nat.zero_le _
  | record =>
    simp only [Awaiting.records, List.length_append, List.length_singleton, Nat.le_refl]

/-- A step takes one line. -/
theorem Behind.of_advance {lines : Nat} (h : cursor.Behind buffer lines)
    (hnext : cursor.advance buffer = .ok next) : next.Behind buffer (lines + 1) := by
  have hbounds := bounds_of_advance hnext
  obtain ⟨line, hline, htext⟩ := advance_eq_ok_iff.mp hnext
  obtain ⟨position, hfirst, -, hposition⟩ := nextLine?_eq_ok_iff.mp hline
  have hrecords := length_records_of_takes (Awaiting.acceptText_eq_ok_iff.mp htext)
  constructor
  case inside => exact hbounds.2
  case count => rw [hposition, hfirst.count_take, h.count]
  case records =>
    have hbefore := h.records
    omega

/-- Every cursor of a walk stands behind one line more than the one before it. -/
theorem behind_of_walk {lines place : Nat} {found : Cursor} (h : cursor.Behind buffer lines)
    (hfound : (cursor.walk buffer).cursors[place]? = some found) :
    found.Behind buffer (lines + place) := by
  induction cursor using walk.induct buffer generalizing lines place with
  | case1 cursor next hnext ih =>
    rw [walk_of_ok hnext] at hfound
    cases place with
    | zero =>
      obtain rfl : cursor = found := Option.some.inj hfound
      exact h
    | succ place =>
      have hrest := ih (h.of_advance hnext) hfound
      rwa [Nat.add_assoc, Nat.add_comm 1 place] at hrest
  | case2 cursor verdict hverdict =>
    rw [walk_of_error hverdict] at hfound
    cases place with
    | zero =>
      obtain rfl : cursor = found := Option.some.inj hfound
      exact h
    | succ place => contradiction

/-- A walk that completes a request has read all its lines before the end of that request. -/
theorem offset_lt_of_walk {request : Request} {consumed : Nat} {found : Cursor}
    (h : (cursor.walk buffer).verdict = .complete request consumed)
    (hfound : found ∈ (cursor.walk buffer).cursors) : found.offset < consumed := by
  induction cursor using walk.induct buffer generalizing found with
  | case1 cursor next hnext ih =>
    rw [walk_of_ok hnext] at h hfound
    rcases List.mem_cons.mp hfound with rfl | hrest
    · have hbounds := bounds_of_advance hnext
      have hlater := ih h (List.mem_of_head? (follows_walk buffer next).begun)
      omega
    · exact ih h hrest
  | case2 cursor verdict hverdict =>
    rw [walk_of_error hverdict] at h hfound
    obtain rfl := List.mem_singleton.mp hfound
    obtain rfl : verdict = .complete request consumed := h
    obtain ⟨line, hline⟩ := exists_line_of_complete hverdict
    exact (bounds_of_nextLine? hline).1

end Cursor

/-- Number of lines that a walk reads. -/
def Walk.linesRead (buffer : Bytes) (walk : Walk) : Nat :=
  walk.cursors.countP fun cursor => (nextLine? buffer cursor.offset).isSome

/-- A walk reads no more lines than line feeds are left. -/
theorem Cursor.linesRead_walk_le (buffer : Bytes) (cursor : Cursor) :
    (buffer.take cursor.offset).count lineFeed + (cursor.walk buffer).linesRead buffer ≤
      buffer.count lineFeed := by
  induction cursor using walk.induct buffer with
  | case1 cursor next hnext ih =>
    obtain ⟨line, hline, -⟩ := advance_eq_ok_iff.mp hnext
    obtain ⟨position, hfirst, -, hposition⟩ := nextLine?_eq_ok_iff.mp hline
    have hone : (cursor.walk buffer).linesRead buffer =
        (next.walk buffer).linesRead buffer + 1 := by
      simp only [walk_of_ok hnext, Walk.linesRead, List.countP_cons, hline, Option.isSome_some,
        if_true]
    rw [hposition, hfirst.count_take] at ih
    omega
  | case2 cursor verdict hverdict =>
    rw [walk_of_error hverdict]
    cases hline : nextLine? buffer cursor.offset with
    | none =>
      have hle := (List.take_sublist cursor.offset buffer).count_le lineFeed
      simpa only [Walk.linesRead, List.countP_singleton, hline, Option.isSome_none,
        Bool.false_eq_true, if_false, Nat.add_zero] using hle
    | some read =>
      -- the line with the verdict has a line feed of its own
      obtain ⟨position, hfirst⟩ := exists_of_nextLine?_eq_some hline
      have hle := (List.take_sublist (position + 1) buffer).count_le lineFeed
      rw [hfirst.count_take] at hle
      simpa only [Walk.linesRead, List.countP_singleton, hline, Option.isSome_some,
        if_true] using hle

/-- A walk goes by steps from the first byte to its verdict, moves on with every line, stays inside
the buffer and is bounded by its line feeds. -/
structure Walk.Progresses (buffer : Bytes) (walk : Walk) : Prop where
  /-- A line is looked for at the first byte, then just past each line that has been read, and
  nowhere else. -/
  follows : walk.Follows buffer Cursor.start
  /-- Each line is looked for behind the offset of the one before it. -/
  increasing : walk.cursors.Pairwise fun earlier later => earlier.offset < later.offset
  /-- No offset is past the end. -/
  inside : ∀ cursor ∈ walk.cursors, cursor.offset ≤ buffer.length
  /-- Each line that has been read has taken one line feed, and no more records are there. -/
  counted : ∀ place cursor, walk.cursors[place]? = some cursor →
    (buffer.take cursor.offset).count lineFeed = place ∧ cursor.awaiting.records.length ≤ place
  /-- No more lines are read than the buffer has line feeds. -/
  lines : walk.linesRead buffer ≤ buffer.count lineFeed
  /-- No more records are collected. -/
  records : ∀ cursor ∈ walk.cursors, cursor.awaiting.records.length ≤ buffer.count lineFeed
  /-- A request that is completed has no more either. It ends inside the buffer, behind the offset
  of each of its lines. -/
  request : ∀ request consumed, walk.verdict = .complete request consumed →
    request.count ≤ buffer.count lineFeed ∧ consumed ≤ buffer.length ∧
      ∀ cursor ∈ walk.cursors, cursor.offset < consumed

/-- The verdict on received bytes is that of the walk from their start. -/
theorem decode_eq_verdict_walk (buffer : Bytes) :
    decode buffer = (Cursor.start.walk buffer).verdict :=
  (Cursor.verdict_walk buffer Cursor.start).symm

/-- Every walk from the start of a buffer makes progress. -/
theorem progresses_walk (buffer : Bytes) : (Cursor.start.walk buffer).Progresses buffer := by
  have hbehind : ∀ (place : Nat) (cursor : Cursor),
      (Cursor.start.walk buffer).cursors[place]? = some cursor → cursor.Behind buffer place := by
    intro place cursor hcursor
    have h := Cursor.behind_of_walk (Cursor.behind_start buffer) hcursor
    rwa [Nat.zero_add] at h
  have hmem : ∀ cursor ∈ (Cursor.start.walk buffer).cursors,
      ∃ place, cursor.Behind buffer place := by
    intro cursor hm
    obtain ⟨place, hcursor⟩ := List.mem_iff_getElem?.mp hm
    exact ⟨place, hbehind place cursor hcursor⟩
  constructor
  case follows => exact Cursor.follows_walk buffer Cursor.start
  case increasing =>
    -- the offset moves on because the number of line feeds before it does
    rw [List.pairwise_iff_getElem]
    intro place later hplace hlater hlt
    have hfirst := (hbehind place _ (List.getElem?_eq_getElem hplace)).count
    have hsecond := (hbehind later _ (List.getElem?_eq_getElem hlater)).count
    by_contra hle
    have htake := List.take_sublist_take_left (l := buffer) (Nat.le_of_not_lt hle)
    have hcount := htake.count_le lineFeed
    omega
  case inside =>
    intro cursor hm
    obtain ⟨place, hcursor⟩ := hmem cursor hm
    exact hcursor.inside
  case counted =>
    intro place cursor hcursor
    exact ⟨(hbehind place cursor hcursor).count, (hbehind place cursor hcursor).records⟩
  case lines =>
    have hle := Cursor.linesRead_walk_le buffer Cursor.start
    have hzero : (buffer.take Cursor.start.offset).count lineFeed = 0 := rfl
    omega
  case records =>
    intro cursor hm
    obtain ⟨place, hcursor⟩ := hmem cursor hm
    have hcount := hcursor.count
    have hrecords := hcursor.records
    have hle := (List.take_sublist cursor.offset buffer).count_le lineFeed
    omega
  case request =>
    intro request consumed hverdict
    have hdecode := (decode_eq_verdict_walk buffer).trans hverdict
    have hlines := (consumed_of_decode hdecode).1
    rw [length_split] at hlines
    exact ⟨by omega, (decode_complete_bounds hdecode).2,
      fun cursor hm => Cursor.offset_lt_of_walk hverdict hm⟩

/-- More bytes are needed exactly if every line that is there is right for its place, none of them
is the end line, and no more of them are records than have been announced. -/
theorem decode_eq_incomplete_iff_rightLines {bytes : Bytes} :
    decode bytes = .incomplete ↔ ∃ announced, RightLines announced (split bytes).1 := by
  rw [decode_eq_incomplete_iff]
  constructor
  · intro h
    obtain ⟨last, hpasses⟩ := h
    obtain ⟨announced, hright, -⟩ := exists_passes_iff.mp ⟨last, hpasses, rfl⟩
    exact ⟨announced, hright⟩
  · intro h
    obtain ⟨announced, hright⟩ := h
    obtain ⟨last, hpasses, -⟩ := exists_passes_iff.mpr ⟨announced, hright, rfl⟩
    exact ⟨last, hpasses⟩

/-- Reading a line from any offset ends with the first line feed there, just past which the next
offset is, inside the buffer. So the reading of a request, which is the walk by such steps from the
start, moves on with every line, reads no more lines and collects no more records than the buffer
has line feeds, whatever number is announced, and needs more bytes exactly if the lines that are
there are right and no more of them are records than have been announced. -/
theorem decode_progress (buffer : Bytes) :
    (∀ start, LineFrom buffer start (nextLine? buffer start)) ∧
      decode buffer = (Cursor.start.walk buffer).verdict ∧
      (Cursor.start.walk buffer).Progresses buffer ∧
      (split buffer).1.length = buffer.count lineFeed ∧
      (decode buffer = .incomplete ↔ ∃ announced, RightLines announced (split buffer).1) :=
  ⟨lineFrom_nextLine? buffer, decode_eq_verdict_walk buffer, progresses_walk buffer,
    length_split buffer, decode_eq_incomplete_iff_rightLines⟩

/-- Two records have come of the greatest number that can be announced, and a part of a third. -/
def hugeCount : Bytes := Utf8.encode "graph\n18446744073709551615\r\n,,,,\ni,m,s,u,n\ni,m"

/-- The count line ends inside the buffer, four lines are read and not the announced number, and the
next record is waited for. -/
theorem decode_progress_hugeCount :
    nextLine? hugeCount 6 = some (.ok ("18446744073709551615", 28)) ∧
      (6 < 28 ∧ 28 ≤ hugeCount.length ∧ hugeCount[27]? = some lineFeed) ∧
      (UInt64.ofNat 6 + UInt64.ofNat 21 + 1).toNat = 28 ∧
      (Cursor.start.walk hugeCount).Follows hugeCount Cursor.start ∧
      (Cursor.start.walk hugeCount).linesRead hugeCount ≤ 4 ∧
      RightLines 18446744073709551615 (split hugeCount).1 ∧ decode hugeCount = .incomplete := by
  obtain ⟨hline, -, hwalk, -, hincomplete⟩ := decode_progress hugeCount
  have hread : nextLine? hugeCount 6 = some (.ok ("18446744073709551615", 28)) := by
    decide +kernel
  have hsize : hugeCount.length < UInt64.size := by decide +kernel
  have hfeeds : hugeCount.count lineFeed = 4 := by decide +kernel
  have hlines : (split hugeCount).1 = [Utf8.encode "graph", Utf8.encode "18446744073709551615\r",
      Utf8.encode ",,,,", Utf8.encode "i,m,s,u,n"] := by decide +kernel
  have hkind : Awaiting.kind.accept (Utf8.encode "graph") = .ok (.next (.count .graph)) := by
    decide +kernel
  have hcount : (Awaiting.count .graph).accept (Utf8.encode "18446744073709551615\r") =
      .ok (.next (.body .graph 18446744073709551615 [])) := by decide +kernel
  have hright : RightLines 18446744073709551615 (split hugeCount).1 := by
    rw [hlines, rightLines_cons_cons_iff]
    refine ⟨right_kind_iff.mpr ⟨_, hkind⟩, right_count_iff.mpr hcount, ?_, by decide⟩
    intro raw hm
    rcases List.mem_pair.mp hm with rfl | rfl
    · exact ⟨",,,,", carries_encode (by decide), show ",,,,".toList.count ',' = 4 by decide⟩
    · exact ⟨"i,m,s,u,n", carries_encode (by decide),
        show "i,m,s,u,n".toList.count ',' = 4 by decide⟩
  have hfew := hwalk.lines
  rw [hfeeds] at hfew
  exact ⟨hread, (hline 6).advances _ _ hread, ((hline 6).fits hsize _ _ hread).2, hwalk.follows,
    hfew, hright, hincomplete.mpr ⟨_, hright⟩⟩

end AssessmentRequest.Wire

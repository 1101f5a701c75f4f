import AssessmentRequest.Proofs.Scenario.Attempts

/-!
# What a delivery does

The acts of a delivery are those of a look-up, of attempts to connect until one is accepted, and of
two writes for each line. Before the first write the connection is asked for its other end, and
nothing is written if that cannot be told.

Main statements: `writeLines_of_accepted`, `sendOver_of_accepted`, `send_of_connects` and
`send_of_unknownPeer`.
-/

namespace AssessmentRequest.Scenario

variable {scenario : Scenario}

/-- The acts of writing a line: its bytes, and then a line feed. -/
def lineActs (line : String) : History :=
  [.log (Delivery.sendingEvent line), .write (Utf8.encode line), .write [Wire.lineFeed]]

theorem silent_flatMap_lineActs (lines : List String) : History.Silent (lines.flatMap lineActs) := by
  intro act ha
  obtain ⟨line, -, hl⟩ := List.mem_flatMap.mp ha
  simp only [lineActs, List.mem_cons, List.not_mem_nil, or_false] at hl
  rcases hl with rfl | rfl | rfl <;> rfl

/-- As long as neither write fails, a line is written. -/
theorem writeLine_of_accepted (link : SocketAddress) (line : String) {history : History}
    (ht : scenario.accept history.written.length = .ok ())
    (hf : scenario.accept (history.written.length + 1) = .ok ()) :
    Delivery.writeLine scenario.environment link line history =
      (.ok (), history ++ [.write (Utf8.encode line), .write [Wire.lineFeed]]) := by
  have hcount : (history ++ [Act.write (Utf8.encode line)]).written.length =
      history.written.length + 1 := by
    rw [History.written_append, List.length_append]
    rfl
  rw [Delivery.writeLine, bind_apply, write_apply, ht]
  simp only [write_apply, hcount, hf, List.append_assoc]
  rfl

/-- As long as no write fails, the lines are written one after the other, and their bytes are
counted. -/
theorem writeLines_of_accepted (link : SocketAddress) (lines : List String) (counted : Nat)
    {history : History}
    (h : ∀ n < 2 * lines.length, scenario.accept (history.written.length + n) = .ok ()) :
    Delivery.writeLines scenario.environment link counted lines history =
      (.ok (counted + (lines.flatMap fun line => Wire.terminate (Utf8.encode line)).length),
        history ++ lines.flatMap lineActs) := by
  induction lines generalizing counted history with
  | nil => simp [Delivery.writeLines, pure_apply]
  | cons line lines ih =>
    rw [List.length_cons] at h
    have hlog : (history ++ [Act.log (Delivery.sendingEvent line)]).written = history.written := by
      rw [History.written_append]
      exact List.append_nil _
    have htext : scenario.accept
        (history ++ [Act.log (Delivery.sendingEvent line)]).written.length = .ok () := by
      rw [hlog]
      exact h 0 (by omega)
    have hfeed : scenario.accept
        ((history ++ [Act.log (Delivery.sendingEvent line)]).written.length + 1) = .ok () := by
      rw [hlog]
      exact h 1 (by omega)
    have hline := writeLine_of_accepted link line htext hfeed
    have hcount : (history ++ lineActs line).written.length = history.written.length + 2 := by
      rw [History.written_append, List.length_append]
      rfl
    have hothers : ∀ n < 2 * lines.length,
        scenario.accept ((history ++ lineActs line).written.length + n) = .ok () := by
      intro n hn
      rw [hcount, Nat.add_assoc]
      exact h (2 + n) (by omega)
    have hrest := ih (counted + (Utf8.encode line).length + 1) hothers
    rw [List.append_assoc] at hline
    rw [Delivery.writeLines, bind_apply, log_apply, bind_apply, hline]
    refine hrest.trans ?_
    rw [List.flatMap_cons, List.flatMap_cons, List.length_append, Wire.length_terminate,
      List.append_assoc, Nat.add_assoc, Nat.add_assoc, Nat.add_assoc]

/-- The two writes of each of some lines. -/
def writesOf (lines : List String) : List Bytes :=
  lines.flatMap fun line => [Utf8.encode line, [Wire.lineFeed]]

theorem written_flatMap_lineActs (lines : List String) :
    History.written (lines.flatMap lineActs) = writesOf lines := by
  rw [History.written, List.filterMap_flatMap]
  rfl

/-- The writes of the lines of a request are its bytes. -/
theorem flatten_writesOf (lines : List String) :
    (writesOf lines).flatten = lines.flatMap fun line => Wire.terminate (Utf8.encode line) := by
  induction lines with
  | nil => rfl
  | cons line lines ih =>
    rw [writesOf] at ih
    rw [writesOf, List.flatMap_cons, List.flatten_append, List.flatMap_cons, ih, Wire.terminate]
    simp

/-- As long as no write fails, a request is written over a connection line by line. -/
theorem sendOver_of_accepted {link peer : SocketAddress} (request : Request) {history : History}
    (hp : scenario.peer link = .ok peer)
    (ha : ∀ n < 2 * request.lines.length, scenario.accept (history.written.length + n) = .ok ()) :
    Delivery.sendOver scenario.environment link request history =
      (.ok ⟨peer, request.count, request.wire.length⟩,
        history ++ ([.log (Delivery.connectedEvent peer)] ++ request.lines.flatMap lineActs)) := by
  have hlog : (history ++ [Act.log (Delivery.connectedEvent peer)]).written = history.written := by
    rw [History.written_append]
    exact List.append_nil _
  have haccept : ∀ n < 2 * request.lines.length, scenario.accept
      ((history ++ [Act.log (Delivery.connectedEvent peer)]).written.length + n) = .ok () := by
    rwa [hlog]
  have hlines := writeLines_of_accepted link request.lines 0 haccept
  rw [Delivery.sendOver, bind_apply, peer_apply, hp]
  dsimp only
  rw [bind_apply, log_apply, bind_apply, hlines, Nat.zero_add, List.append_assoc]
  rfl

/-- Over a connection whose other end cannot be told, nothing is done. -/
theorem sendOver_of_unknownPeer {link : SocketAddress} {fault : SystemFault}
    (hp : scenario.peer link = .error fault) (request : Request) (history : History) :
    Delivery.sendOver scenario.environment link request history =
      (.error (.write fault), history) := by
  rw [Delivery.sendOver, bind_apply, peer_apply, hp]
  rfl

section send

variable {request : Request} {target : Target} {addresses : List SocketAddress}
  {link peer : SocketAddress} {history : History}

/-- The connection of a delivery is closed behind everything that is done over it. -/
theorem send_of_sendOver {connecting writing : History} {outcome : Except SendError Summary}
    (hf : request.fault? = none)
    (hconnect : Delivery.connect scenario.environment target history =
      (.ok link, history ++ connecting))
    (hover : Delivery.sendOver scenario.environment link request (history ++ connecting) =
      (outcome, history ++ connecting ++ writing)) :
    Delivery.send scenario.environment target request history =
      (outcome, history ++ (connecting ++ writing ++ [.close])) := by
  rw [Delivery.send, hf]
  dsimp only
  rw [bind_apply, hconnect]
  dsimp only
  rw [bind_apply, hover, bind_apply, close_apply, List.append_assoc, List.append_assoc,
    List.append_assoc]
  rfl

/-- A request that can be sent is written to the first address that accepts, line by line. -/
theorem send_of_connects (hf : request.fault? = none)
    (hr : scenario.resolve target.host target.port = .ok addresses)
    (hc : scenario.Connects history.attempted.length addresses link)
    (hp : scenario.peer link = .ok peer)
    (ha : ∀ n < 2 * request.lines.length, scenario.accept (history.written.length + n) = .ok ()) :
    ∃ acts : History, Delivery.send scenario.environment target request history =
        (.ok ⟨peer, request.count, request.wire.length⟩, history ++ acts) ∧
      acts.written = writesOf request.lines ∧ acts.Silent := by
  obtain ⟨connecting, hconnect, hw, hs⟩ := connect_of_connects hr hc
  have hcount : (history ++ connecting).written = history.written := by
    rw [History.written_append, hw, List.append_nil]
  have haccept : ∀ n < 2 * request.lines.length,
      scenario.accept ((history ++ connecting).written.length + n) = .ok () := by
    rwa [hcount]
  let writing : History := [.log (Delivery.connectedEvent peer)] ++ request.lines.flatMap lineActs
  refine ⟨connecting ++ writing ++ [.close], ?_, ?_, ?_⟩
  · exact send_of_sendOver hf hconnect (sendOver_of_accepted request hp haccept)
  · rw [History.written_append, History.written_append, hw, List.nil_append,
      History.written_append, written_flatMap_lineActs]
    exact List.append_nil _
  · simp only [writing, History.silent_append]
    refine ⟨⟨hs, ?_, silent_flatMap_lineActs _⟩, ?_⟩ <;> simp [History.Silent, Act.printed?]

/-- A request is not written over a connection whose other end cannot be told. -/
theorem send_of_unknownPeer {fault : SystemFault} (hf : request.fault? = none)
    (hr : scenario.resolve target.host target.port = .ok addresses)
    (hc : scenario.Connects history.attempted.length addresses link)
    (hp : scenario.peer link = .error fault) :
    ∃ acts : History, Delivery.send scenario.environment target request history =
        (.error (.write fault), history ++ acts) ∧
      acts.written = [] ∧ acts.Silent := by
  obtain ⟨connecting, hconnect, hw, hs⟩ := connect_of_connects hr hc
  have hover : Delivery.sendOver scenario.environment link request (history ++ connecting) =
      (.error (.write fault), history ++ connecting ++ []) := by
    rw [List.append_nil]
    exact sendOver_of_unknownPeer hp request (history ++ connecting)
  refine ⟨connecting ++ [] ++ [.close], send_of_sendOver hf hconnect hover, ?_, ?_⟩
  · rw [List.append_nil, History.written_append, hw]
    rfl
  · rw [List.append_nil, History.silent_append]
    exact ⟨hs, by simp [History.Silent, Act.printed?]⟩

end send

end AssessmentRequest.Scenario

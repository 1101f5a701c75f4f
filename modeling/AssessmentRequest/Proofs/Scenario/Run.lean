import AssessmentRequest.Proofs.Configuration.Request
import AssessmentRequest.Proofs.Scenario.Delivery

/-!
# Writing out and sending

A run writes its request out, or sends it, in one and the same bytes, and both refuse the same
requests before anything else is done. All of the bytes are read back as the request, and whatever
part of them the other end has received, it does not take it for a shorter one.

Main statements: `run_dry_of_encode`, `run_wet_of_encode`, `run_wet_of_unknownPeer`,
`run_of_refused` and `run_agrees_with_encode`.
-/

namespace AssessmentRequest.Scenario

variable {scenario : Scenario}

/-- The request has been written out: the output took its bytes, and apart from that only events
were recorded. -/
structure WroteOut (outcome : Except RunError (Option Summary) × History) (wire : Bytes) :
    Prop where
  /-- The run succeeded, and there is no delivery to report. -/
  result : outcome.1 = .ok none
  /-- The output took the bytes and no others. -/
  printed : outcome.2.printed = wire
  /-- No host was looked up, no connection was attempted and nothing was written to one. -/
  offline : ∀ act ∈ outcome.2, act = .print wire ∨ ∃ event, act = .log event

/-- The request has been delivered: its bytes were written to a connection, and the output was
left alone. -/
structure Delivered (outcome : Except RunError (Option Summary) × History) (peer : SocketAddress)
    (records : Nat) (wire : Bytes) : Prop where
  /-- The run reports the peer, the number of records and the number of bytes. -/
  result : outcome.1 = .ok (some ⟨peer, records, wire.length⟩)
  /-- The writes are the bytes, one after the other. -/
  written : outcome.2.written.flatten = wire
  /-- The output was left alone. -/
  silent : outcome.2.Silent

/-- The run has failed before the first byte of the request: nothing was written to a connection,
and the output was left alone. -/
structure Unsent (outcome : Except RunError (Option Summary) × History) (error : SendError) :
    Prop where
  /-- The run failed with the error. -/
  result : outcome.1 = .error (.send error)
  /-- There was no write. -/
  unwritten : outcome.2.written = []
  /-- The output was left alone. -/
  silent : outcome.2.Silent

/-- The run has failed, and apart from recording events it did nothing. -/
structure Refused (outcome : Except RunError (Option Summary) × History) (error : RunError) :
    Prop where
  /-- The run failed with the error. -/
  result : outcome.1 = .error error
  /-- Nothing was looked up, attempted, written or printed. -/
  idle : ∀ act ∈ outcome.2, ∃ event, act = .log event

/-- The acts of a run before it does anything with its request. -/
def announced (configuration : Configuration) : History :=
  .ofEvents (Session.announcements configuration configuration.request)

/-- A run records the announcements of its request, and then writes it out or delivers it. -/
theorem run_eq (scenario : Scenario) (configuration : Configuration) :
    scenario.run configuration =
      (if configuration.dryRun then Session.printRequest scenario.environment configuration.request
        else Session.deliverRequest scenario.environment configuration.target
          configuration.request)
        (announced configuration) := by
  rw [run, Session.run, bind_apply, forM_log_apply, List.nil_append, announced]

/-- The announcements write nothing to a connection. -/
theorem written_announced (configuration : Configuration) :
    (announced configuration).written = [] :=
  History.written_ofEvents _

/-- The announcements try no address. -/
theorem connects_announced {configuration : Configuration} {addresses : List SocketAddress}
    {link : SocketAddress} (h : scenario.Connects 0 addresses link) :
    scenario.Connects (announced configuration).attempted.length addresses link := by
  rwa [announced, History.attempted_ofEvents]

theorem forall_mem_ofEvents (events : List Journal.Event) :
    ∀ act ∈ History.ofEvents events, ∃ event, act = Act.log event := by
  intro act ha
  obtain ⟨event, -, rfl⟩ := List.mem_map.mp ha
  exact ⟨event, rfl⟩

/-- A request that can be sent is written out as it is encoded. -/
theorem run_dry_of_encode {configuration : Configuration} (hd : configuration.dryRun = true)
    {wire : Bytes} (hw : configuration.request.encode = .ok wire)
    (ht : scenario.taken 0 wire = wire) (hflush : scenario.flush = .ok ()) :
    WroteOut (scenario.run configuration) wire := by
  have hprinted : (announced configuration).printed = [] := History.printed_ofEvents _
  have hrun : scenario.run configuration =
      (.ok none, announced configuration ++ [.print wire]) := by
    rw [run_eq, if_pos hd, Session.printRequest, hw]
    dsimp only
    rw [bind_apply, print_apply, hprinted, List.length_nil, ht, if_pos rfl]
    dsimp only
    rw [bind_apply, flush_apply, hflush]
    rfl
  rw [hrun]
  refine ⟨rfl, ?_, ?_⟩
  · rw [History.printed_append, hprinted, List.nil_append]
    exact List.append_nil wire
  · intro act ha
    rcases List.mem_append.mp ha with he | hp
    · exact .inr (forall_mem_ofEvents _ act he)
    · exact .inl (List.mem_singleton.mp hp)

/-- A request that can be sent is written to the first address that accepts, as it is encoded. -/
theorem run_wet_of_encode {configuration : Configuration} (hd : configuration.dryRun = false)
    {wire : Bytes} (hw : configuration.request.encode = .ok wire) {addresses : List SocketAddress}
    {link peer : SocketAddress}
    (hr : scenario.resolve configuration.host configuration.port = .ok addresses)
    (hc : scenario.Connects 0 addresses link) (hp : scenario.peer link = .ok peer)
    (ha : ∀ n < 2 * (configuration.identifiers.length + 3), scenario.accept n = .ok ()) :
    Delivered (scenario.run configuration) peer configuration.identifiers.length wire ∧
      (scenario.run configuration).2.written = writesOf configuration.request.lines := by
  obtain ⟨hf, rfl⟩ := Request.encode_eq_ok_iff.mp hw
  have haccept : ∀ n < 2 * configuration.request.lines.length,
      scenario.accept ((announced configuration).written.length + n) = .ok () := by
    rw [written_announced, Request.length_lines, configuration.count_request]
    simpa using ha
  have hresolve : scenario.resolve configuration.target.host configuration.target.port =
      .ok addresses := hr
  obtain ⟨acts, hsend, hwritten, hs⟩ :=
    send_of_connects hf hresolve (connects_announced hc) hp haccept
  let sent : Act := .log (Session.sentEvent
    ⟨peer, configuration.request.count, configuration.request.wire.length⟩)
  have hrun : scenario.run configuration =
      (.ok (some ⟨peer, configuration.request.count, configuration.request.wire.length⟩),
        announced configuration ++ (acts ++ [sent])) := by
    rw [run_eq, if_neg (by simp [hd]), Session.deliverRequest, bind_apply, hsend]
    dsimp only
    rw [bind_apply, log_apply, List.append_assoc]
    rfl
  have hall : (scenario.run configuration).2.written = writesOf configuration.request.lines := by
    rw [hrun, History.written_append, written_announced, List.nil_append, History.written_append,
      hwritten]
    exact List.append_nil _
  refine ⟨⟨?_, ?_, ?_⟩, hall⟩
  · rw [hrun, configuration.count_request]
  · rw [hall, flatten_writesOf]
    rfl
  · rw [hrun, History.silent_append, History.silent_append]
    exact ⟨History.silent_ofEvents _, hs, by simp [sent, History.Silent, Act.printed?]⟩

/-- A request that can be sent is not written to a connection whose other end cannot be told. -/
theorem run_wet_of_unknownPeer {configuration : Configuration} (hd : configuration.dryRun = false)
    {wire : Bytes} (hw : configuration.request.encode = .ok wire) {addresses : List SocketAddress}
    {link : SocketAddress} {fault : SystemFault}
    (hr : scenario.resolve configuration.host configuration.port = .ok addresses)
    (hc : scenario.Connects 0 addresses link) (hp : scenario.peer link = .error fault) :
    Unsent (scenario.run configuration) (.write fault) := by
  obtain ⟨hf, -⟩ := Request.encode_eq_ok_iff.mp hw
  have hresolve : scenario.resolve configuration.target.host configuration.target.port =
      .ok addresses := hr
  obtain ⟨acts, hsend, hwritten, hs⟩ :=
    send_of_unknownPeer hf hresolve (connects_announced hc) hp
  have hrun : scenario.run configuration =
      (.error (.send (.write fault)), announced configuration ++ acts) := by
    rw [run_eq, if_neg (by simp [hd]), Session.deliverRequest, bind_apply, hsend]
    rfl
  rw [hrun]
  refine ⟨rfl, ?_, ?_⟩
  · rw [History.written_append, written_announced, hwritten, List.append_nil]
  · exact History.silent_append.mpr ⟨History.silent_ofEvents _, hs⟩

/-- A request that cannot be sent is refused in both ways of running, and nothing is done. -/
theorem run_of_refused (scenario : Scenario) {configuration : Configuration} {error : RequestError}
    (h : configuration.request.encode = .error error) :
    Refused (scenario.run configuration)
      (if configuration.dryRun then .request error else .send (.request error)) := by
  have hrun : scenario.run configuration =
      (.error (if configuration.dryRun then .request error else .send (.request error)),
        announced configuration) := by
    rw [run_eq]
    cases configuration.dryRun with
    | true =>
      rw [if_pos rfl, if_pos rfl, Session.printRequest, h]
      rfl
    | false =>
      have hf := Request.encode_eq_error_iff.mp h
      rw [if_neg (by decide), if_neg (by decide), Session.deliverRequest, bind_apply,
        send_of_fault? hf]
      rfl
  rw [hrun]
  exact ⟨rfl, forall_mem_ofEvents _⟩

/-- The last write is the line feed of the end line. -/
theorem getLast?_writesOf_lines (request : Request) :
    (writesOf request.lines).getLast? = some [Wire.lineFeed] := by
  rw [Request.lines, writesOf, List.flatMap_append, List.flatMap_singleton, List.getLast?_append]
  rfl

/-- As long as a write is missing, a byte is missing. -/
theorem flatten_take_writesOf (request : Request) {n : Nat}
    (hn : n < (writesOf request.lines).length) :
    ((writesOf request.lines).take n).flatten <+: request.wire ∧
      ((writesOf request.lines).take n).flatten ≠ request.wire := by
  have hsplit : ((writesOf request.lines).take n).flatten ++
      ((writesOf request.lines).drop n).flatten = request.wire := by
    rw [← List.flatten_append, List.take_append_drop, flatten_writesOf]
    rfl
  have hlast : ((writesOf request.lines).drop n).getLast? = some [Wire.lineFeed] := by
    rw [List.getLast?_drop, if_neg (by omega), getLast?_writesOf_lines]
  have hmissing : ((writesOf request.lines).drop n).flatten ≠ [] := by
    have hm : Wire.lineFeed ∈ ((writesOf request.lines).drop n).flatten :=
      List.mem_flatten.mpr ⟨_, List.mem_of_getLast? hlast, List.mem_singleton_self _⟩
    exact List.ne_nil_of_mem hm
  refine ⟨⟨_, hsplit⟩, fun he => hmissing ?_⟩
  rw [he] at hsplit
  exact List.self_eq_append_right.mp hsplit.symm

/-- Writing out, sending and encoding agree. The bytes of a request are what a dry run writes to an
output that takes them and passes them on, and what the writes of a delivery add up to; together
they are read as the request, and before the last write, and after any part of the bytes, the other
end waits for more. If the connection cannot tell its other end, this is reported as a failed write,
and nothing is written. A request without bytes is refused for the same reason in both ways of
running, before a connection is attempted or a byte is written. The bound is that of every list held
in memory, whose length fits 64 bits. -/
theorem run_agrees_with_encode (scenario : Scenario) (configuration : Configuration) :
    (∀ wire, configuration.request.encode = .ok wire →
        (scenario.taken 0 wire = wire → scenario.flush = .ok () →
          WroteOut (scenario.run { configuration with dryRun := true }) wire) ∧
        (∀ addresses link,
          scenario.resolve configuration.host configuration.port = .ok addresses →
          scenario.Connects 0 addresses link →
          (∀ peer, scenario.peer link = .ok peer →
            (∀ n < 2 * (configuration.identifiers.length + 3), scenario.accept n = .ok ()) →
            Delivered (scenario.run { configuration with dryRun := false }) peer
                configuration.identifiers.length wire ∧
              (configuration.identifiers.length ≤ Wire.countLimit →
                ∀ n < (scenario.run { configuration with dryRun := false }).2.written.length,
                  Wire.decode
                      ((scenario.run
                        { configuration with dryRun := false }).2.written.take n).flatten =
                    .incomplete)) ∧
          ∀ fault, scenario.peer link = .error fault →
            Unsent (scenario.run { configuration with dryRun := false }) (.write fault)) ∧
        (configuration.identifiers.length ≤ Wire.countLimit →
          Wire.decode wire = .complete configuration.request wire.length ∧
            ∀ part, part <+: wire → part ≠ wire → Wire.decode part = .incomplete)) ∧
      ∀ error, configuration.request.encode = .error error →
        Refused (scenario.run { configuration with dryRun := true }) (.request error) ∧
          Refused (scenario.run { configuration with dryRun := false })
            (.send (.request error)) := by
  constructor
  · intro wire hw
    obtain ⟨hf, rfl⟩ := Request.encode_eq_ok_iff.mp hw
    have hrepresentable := Request.representable_of_fault? hf
    have hcount := configuration.count_request
    have hwet : { configuration with dryRun := false }.dryRun = false := rfl
    refine ⟨run_dry_of_encode rfl hw, fun addresses link hr hc => ⟨fun peer hp ha => ?_,
      fun fault hp => run_wet_of_unknownPeer hwet hw hr hc hp⟩, fun hle => ⟨?_, ?_⟩⟩
    · obtain ⟨hdelivered, hwrites⟩ := run_wet_of_encode hwet hw hr hc hp ha
      refine ⟨hdelivered, fun hle n hn => ?_⟩
      rw [hwrites] at hn ⊢
      obtain ⟨hpart, hne⟩ := flatten_take_writesOf _ hn
      exact Wire.decode_of_prefix_wire hrepresentable (hcount ▸ hle) hpart hne
    · exact Wire.decode_wire hrepresentable (hcount ▸ hle)
    · exact fun part hpart hne =>
        Wire.decode_of_prefix_wire hrepresentable (hcount ▸ hle) hpart hne
  · intro error he
    have hdry : { configuration with dryRun := true }.request.encode = .error error := he
    have hwet : { configuration with dryRun := false }.request.encode = .error error := he
    exact ⟨run_of_refused scenario hdry, run_of_refused scenario hwet⟩

/-- A host with two addresses, of which the second one accepts. -/
def secondAccepts : Scenario where
  directory := .ofPaths []
  resolve _ port := .ok [⟨.v4 127 0 0 1, port, 0⟩, ⟨.v4 127 0 0 2, port, 0⟩]
  attempt before address := if before = 0 then .error .refused else .ok address
  accept _ := .ok ()
  room := some 200

/-- The same host, but the connection is reset before it can tell its other end. -/
def secondResets : Scenario :=
  { secondAccepts with peer := fun _ => .error (.other "Transport endpoint is not connected") }

/-- A configuration with two records is written out, and sent to the second address, where it is
read as it is. It is not sent if the connection does not last, and without identifiers it is
refused. -/
theorem run_agrees_with_encode_secondAccepts :
    (∃ wire, Configuration.repeatedDocument.request.encode = .ok wire ∧
        WroteOut (secondAccepts.run { Configuration.repeatedDocument with dryRun := true }) wire ∧
        Delivered (secondAccepts.run { Configuration.repeatedDocument with dryRun := false })
          ⟨.v4 127 0 0 2, 33000, 0⟩ 2 wire ∧
        Unsent (secondResets.run { Configuration.repeatedDocument with dryRun := false })
          (.write (.other "Transport endpoint is not connected")) ∧
        Wire.decode wire = .complete Configuration.repeatedDocument.request wire.length ∧
        Wire.decode (wire.take 20) = .incomplete) ∧
      Refused
        (secondAccepts.run
          { { Configuration.repeatedDocument with identifiers := [] } with dryRun := false })
        (.send (.request .empty)) := by
  have hencode : Configuration.repeatedDocument.request.encode =
      .ok Configuration.repeatedDocument.request.wire := by decide +kernel
  obtain ⟨hok, -⟩ := run_agrees_with_encode secondAccepts Configuration.repeatedDocument
  obtain ⟨hdry, hwet, hread⟩ := hok _ hencode
  obtain ⟨hwhole, hpart⟩ := hread (by decide)
  obtain ⟨hlost, -⟩ := run_agrees_with_encode secondResets Configuration.repeatedDocument
  obtain ⟨-, hreset, -⟩ := hlost _ hencode
  have hrefused := (run_agrees_with_encode secondAccepts
    { Configuration.repeatedDocument with identifiers := [] }).2 .empty (by decide +kernel)
  have hfirst : secondAccepts.attempt 0 ⟨.v4 127 0 0 1, 33000, 0⟩ = .error .refused := rfl
  have hconnects : secondAccepts.Connects 0 [⟨.v4 127 0 0 1, 33000, 0⟩, ⟨.v4 127 0 0 2, 33000, 0⟩]
      ⟨.v4 127 0 0 2, 33000, 0⟩ :=
    .refused hfirst (.accepted rfl)
  have hresets : secondResets.Connects 0 [⟨.v4 127 0 0 1, 33000, 0⟩, ⟨.v4 127 0 0 2, 33000, 0⟩]
      ⟨.v4 127 0 0 2, 33000, 0⟩ :=
    .refused hfirst (.accepted rfl)
  refine ⟨⟨_, hencode, hdry (by decide +kernel) rfl, ?_, ?_, hwhole, ?_⟩, hrefused.2⟩
  · exact ((hwet _ _ rfl hconnects).1 _ rfl fun _ _ => rfl).1
  · exact (hreset _ _ rfl hresets).2 _ rfl
  · exact hpart _ (List.take_prefix _ _) (by decide +kernel)

end AssessmentRequest.Scenario

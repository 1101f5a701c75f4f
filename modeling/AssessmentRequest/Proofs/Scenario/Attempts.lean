import AssessmentRequest.Proofs.Request.FirstFault
import AssessmentRequest.Proofs.Scenario.Acts

/-!
# Attempts to connect

The addresses of a host are tried in the order in which they were found, each once, until one
accepts. What comes after it is left alone. If none accepts, all of them have been tried, and the
fault is that of the last one. An address that was found more than once is tried at each of its
places.

Main statements: `connects_iff_firstAccepts`, `tryEach_of_firstAccepts`, `tryEach_of_allRefuse`,
`connect_of_addresses`, `connect_eq_noAddress_iff`, `connect_eq_resolve_iff` and
`connect_tries_in_order`.
-/

namespace AssessmentRequest

namespace History

/-- Addresses were tried and events recorded, and nothing else was done. -/
def OnlyAttempts (history : History) : Prop :=
  ∀ act ∈ history, (∃ address, act = .attempt address) ∨ ∃ event, act = .log event

theorem OnlyAttempts.written {history : History} (h : history.OnlyAttempts) :
    history.written = [] := by
  refine List.filterMap_eq_nil_iff.mpr fun act ha => ?_
  rcases h act ha with ⟨address, rfl⟩ | ⟨event, rfl⟩ <;> rfl

theorem OnlyAttempts.silent {history : History} (h : history.OnlyAttempts) : history.Silent := by
  intro act ha
  rcases h act ha with ⟨address, rfl⟩ | ⟨event, rfl⟩ <;> rfl

end History

namespace Scenario

variable {scenario : Scenario}

/-- After so many attempts, the addresses are tried in order until one accepts. -/
inductive Connects (scenario : Scenario) : Nat → List SocketAddress → SocketAddress → Prop where
  /-- The first address accepts. -/
  | accepted {before : Nat} {address link : SocketAddress} {others : List SocketAddress} :
    scenario.attempt before address = .ok link → Connects scenario before (address :: others) link
  /-- The first address does not accept, and the others are tried. -/
  | refused {before : Nat} {address link : SocketAddress} {others : List SocketAddress}
    {fault : SystemFault} :
    scenario.attempt before address = .error fault → Connects scenario (before + 1) others link →
      Connects scenario before (address :: others) link

variable {before position : Nat} {addresses : List SocketAddress}
  {address head link : SocketAddress} {fault : SystemFault} {rest : List SocketAddress}

/-- After so many attempts, those at the first `count` addresses would fail. -/
def Refuses (scenario : Scenario) (before : Nat) (addresses : List SocketAddress)
    (count : Nat) : Prop :=
  ∀ position < count, ∀ address, addresses[position]? = some address →
    ∃ fault, scenario.attempt (before + position) address = .error fault

/-- After so many attempts, the first address that accepts is the one at `position`. -/
structure FirstAccepts (scenario : Scenario) (before : Nat) (addresses : List SocketAddress)
    (position : Nat) (link : SocketAddress) : Prop where
  /-- Those in front of it do not accept. -/
  refused : scenario.Refuses before addresses position
  /-- It accepts, and this is the connection. -/
  accepted : ∃ address, addresses[position]? = some address ∧
    scenario.attempt (before + position) address = .ok link

/-- After so many attempts, there is an address to try and none accepts. -/
structure AllRefuse (scenario : Scenario) (before : Nat) (addresses : List SocketAddress)
    (address : SocketAddress) (fault : SystemFault) : Prop where
  /-- No address accepts. -/
  refused : scenario.Refuses before addresses addresses.length
  /-- The last one, and the fault of the attempt there. -/
  last : ∃ position, position + 1 = addresses.length ∧ addresses[position]? = some address ∧
    scenario.attempt (before + position) address = .error fault

/-- The answer was given after trying some addresses, one after the other. Besides, events were
recorded. -/
structure Tried {α : Type} (outcome : α × History) (history : History) (answer : α)
    (tried : List SocketAddress) : Prop where
  /-- This is the answer. -/
  result : outcome.1 = answer
  /-- What was done since. -/
  acts : ∃ acts : History, outcome.2 = history ++ acts ∧ acts.attempted = tried ∧ acts.OnlyAttempts

theorem refuses_zero : scenario.Refuses before addresses 0 :=
  fun position hlt => absurd hlt (Nat.not_lt_zero position)

theorem refuses_cons_succ {count : Nat} :
    scenario.Refuses before (head :: rest) (count + 1) ↔
      (∃ fault, scenario.attempt before head = .error fault) ∧
        scenario.Refuses (before + 1) rest count := by
  constructor
  · intro h
    refine ⟨h 0 (by omega) head rfl, fun position hlt address ha => ?_⟩
    rw [Nat.add_right_comm]
    exact h (position + 1) (by omega) address ha
  · rintro ⟨hhead, hrest⟩ position hlt address ha
    cases position with
    | zero =>
      obtain rfl : head = address := Option.some.inj ha
      exact hhead
    | succ position =>
      have h := hrest position (by omega) address ha
      rwa [Nat.add_right_comm] at h

theorem FirstAccepts.ne_nil (h : scenario.FirstAccepts before addresses position link) :
    addresses ≠ [] := by
  rintro rfl
  obtain ⟨address, ha, -⟩ := h.accepted
  exact absurd ha (by simp)

theorem AllRefuse.ne_nil (h : scenario.AllRefuse before addresses address fault) :
    addresses ≠ [] := by
  rintro rfl
  obtain ⟨position, hlength, -⟩ := h.last
  exact absurd hlength (Nat.succ_ne_zero position)

/-- The address in front is the first to accept exactly if it accepts. -/
theorem firstAccepts_cons_zero :
    scenario.FirstAccepts before (head :: rest) 0 link ↔
      scenario.attempt before head = .ok link := by
  constructor
  · intro h
    obtain ⟨address, ha, hlink⟩ := h.accepted
    obtain rfl : head = address := Option.some.inj ha
    exact hlink
  · exact fun hlink => ⟨refuses_zero, head, rfl, hlink⟩

/-- Behind an address that does not accept, the first one that does stands one place earlier. -/
theorem firstAccepts_cons_succ :
    scenario.FirstAccepts before (head :: rest) (position + 1) link ↔
      (∃ fault, scenario.attempt before head = .error fault) ∧
        scenario.FirstAccepts (before + 1) rest position link := by
  have hplace : before + (position + 1) = before + 1 + position := by omega
  constructor
  · intro h
    obtain ⟨hhead, hrest⟩ := refuses_cons_succ.mp h.refused
    obtain ⟨address, ha, hlink⟩ := h.accepted
    exact ⟨hhead, hrest, address, ha, hplace ▸ hlink⟩
  · rintro ⟨hhead, hrest, address, ha, hlink⟩
    exact ⟨refuses_cons_succ.mpr ⟨hhead, hrest⟩, address, ha, hplace ▸ hlink⟩

/-- A connection is made exactly if one of the addresses is the first to accept, with that
connection. -/
theorem connects_iff_firstAccepts :
    scenario.Connects before addresses link ↔
      ∃ position, scenario.FirstAccepts before addresses position link := by
  constructor
  · intro h
    induction h with
    | @accepted before address link others ha =>
      exact ⟨0, firstAccepts_cons_zero.mpr ha⟩
    | @refused before address link others fault ha hrest ih =>
      obtain ⟨position, hothers⟩ := ih
      exact ⟨position + 1, firstAccepts_cons_succ.mpr ⟨⟨fault, ha⟩, hothers⟩⟩
  · rintro ⟨position, h⟩
    induction addresses generalizing before position with
    | nil => exact absurd rfl h.ne_nil
    | cons head rest ih =>
      cases position with
      | zero => exact .accepted (firstAccepts_cons_zero.mp h)
      | succ position =>
        obtain ⟨⟨fault, hhead⟩, hrest⟩ := firstAccepts_cons_succ.mp h
        exact .refused hhead (ih position hrest)

/-- Either some address is the first to accept, or none accepts. -/
theorem exists_firstAccepts_or_refuses (scenario : Scenario) (before : Nat)
    (addresses : List SocketAddress) :
    (∃ position link, scenario.FirstAccepts before addresses position link) ∨
      scenario.Refuses before addresses addresses.length := by
  induction addresses generalizing before with
  | nil => exact .inr refuses_zero
  | cons head rest ih =>
    cases hhead : scenario.attempt before head with
    | ok link => exact .inl ⟨0, link, firstAccepts_cons_zero.mpr hhead⟩
    | error fault =>
      rcases ih (before + 1) with ⟨position, link, hrest⟩ | hrest
      · exact .inl ⟨position + 1, link, firstAccepts_cons_succ.mpr ⟨⟨fault, hhead⟩, hrest⟩⟩
      · exact .inr (refuses_cons_succ.mpr ⟨⟨fault, hhead⟩, hrest⟩)

/-- There is no address, or one is the first to accept, or all refuse. -/
theorem attempts_cases (scenario : Scenario) (before : Nat) (addresses : List SocketAddress) :
    addresses = [] ∨ (∃ position link, scenario.FirstAccepts before addresses position link) ∨
      ∃ address fault, scenario.AllRefuse before addresses address fault := by
  rcases exists_firstAccepts_or_refuses scenario before addresses with haccepts | hrefuses
  · exact .inr (.inl haccepts)
  · rcases List.eq_nil_or_concat' addresses with rfl | ⟨others, address, rfl⟩
    · exact .inl rfl
    · have hlast : (others ++ [address])[others.length]? = some address :=
        List.getElem?_concat_length
      have hlength : others.length + 1 = (others ++ [address]).length := by simp
      obtain ⟨fault, hfault⟩ := hrefuses others.length (by omega) address hlast
      exact .inr (.inr ⟨address, fault, hrefuses, others.length, hlength, hlast, hfault⟩)

/-- An address that accepts is the last one tried. -/
theorem tryEach_cons_of_ok {history : History}
    (h : scenario.attempt history.attempted.length address = .ok link) (timeout : Option UInt64)
    (last : Option (SocketAddress × SystemFault)) (others : List SocketAddress) :
    Delivery.tryEach scenario.environment timeout last (address :: others) history =
      (.ok link, history ++ [.attempt address]) := by
  rw [Delivery.tryEach, bind_apply, connect_apply, h]
  rfl

/-- The acts of an attempt that fails. -/
def refusedActs (address : SocketAddress) (fault : SystemFault) : History :=
  [.attempt address, .log (Delivery.attemptFailedEvent address fault)]

/-- After an address that does not accept the others are tried, and its fault is kept. -/
theorem tryEach_cons_of_error {history : History}
    (h : scenario.attempt history.attempted.length address = .error fault)
    (timeout : Option UInt64) (last : Option (SocketAddress × SystemFault))
    (others : List SocketAddress) :
    Delivery.tryEach scenario.environment timeout last (address :: others) history =
      Delivery.tryEach scenario.environment timeout (some (address, fault)) others
        (history ++ refusedActs address fault) := by
  rw [Delivery.tryEach, bind_apply, connect_apply, h]
  dsimp only
  rw [bind_apply, log_apply, List.append_assoc]
  rfl

theorem length_attempted_refusedActs (address : SocketAddress) (fault : SystemFault)
    (history : History) :
    (history ++ refusedActs address fault).attempted.length = history.attempted.length + 1 := by
  rw [History.attempted_append, List.length_append]
  rfl

/-- Nothing was done for the answer. -/
theorem Tried.nil {α : Type} (answer : α) (history : History) :
    Tried (answer, history) history answer [] :=
  ⟨rfl, [], (List.append_nil history).symm, rfl, fun _ hm => absurd hm List.not_mem_nil⟩

/-- An attempt that failed is the first of those that were made. -/
theorem Tried.cons_refused {α : Type} {outcome : α × History} {history : History} {answer : α}
    {tried : List SocketAddress}
    (h : Tried outcome (history ++ refusedActs address fault) answer tried) :
    Tried outcome history answer (address :: tried) := by
  obtain ⟨acts, hacts, htried, honly⟩ := h.acts
  refine ⟨h.result, refusedActs address fault ++ acts, ?_, ?_, ?_⟩
  · rw [hacts, List.append_assoc]
  · rw [History.attempted_append, htried]
    rfl
  · intro act ha
    rcases List.mem_append.mp ha with hfirst | hmore
    · simp only [refusedActs, List.mem_cons, List.not_mem_nil, or_false] at hfirst
      rcases hfirst with rfl | rfl
      · exact .inl ⟨_, rfl⟩
      · exact .inr ⟨_, rfl⟩
    · exact honly act hmore

/-- The addresses are tried up to the first one that accepts. -/
theorem tryEach_of_firstAccepts (h : scenario.FirstAccepts before addresses position link)
    (timeout : Option UInt64) (last : Option (SocketAddress × SystemFault)) {history : History}
    (hb : history.attempted.length = before) :
    Tried (Delivery.tryEach scenario.environment timeout last addresses history) history
      (.ok link) (addresses.take (position + 1)) := by
  -- each attempt adds to the history, so the number of those before has to go along
  induction addresses generalizing before position last history with
  | nil => exact absurd rfl h.ne_nil
  | cons head rest ih =>
    subst hb
    cases position with
    | zero =>
      rw [tryEach_cons_of_ok (firstAccepts_cons_zero.mp h)]
      exact ⟨rfl, [.attempt head], rfl, rfl, List.forall_mem_singleton.mpr (.inl ⟨head, rfl⟩)⟩
    | succ position =>
      obtain ⟨⟨fault, hhead⟩, hrest⟩ := firstAccepts_cons_succ.mp h
      rw [tryEach_cons_of_error hhead]
      exact (ih hrest (some (head, fault))
        (length_attempted_refusedActs head fault history)).cons_refused

/-- If none accepts, all of them are tried, and the fault of the last one is what remains. -/
theorem tryEach_of_allRefuse (h : scenario.AllRefuse before addresses address fault)
    (timeout : Option UInt64) (last : Option (SocketAddress × SystemFault)) {history : History}
    (hb : history.attempted.length = before) :
    Tried (Delivery.tryEach scenario.environment timeout last addresses history) history
      (.error (some (address, fault))) addresses := by
  induction addresses generalizing before last history with
  | nil => exact absurd rfl h.ne_nil
  | cons head rest ih =>
    subst hb
    obtain ⟨⟨first, hhead⟩, hrest⟩ := refuses_cons_succ.mp h.refused
    obtain ⟨position, hlength, ha, hfault⟩ := h.last
    rw [tryEach_cons_of_error hhead]
    apply Tried.cons_refused
    cases position with
    | zero =>
      -- the head is the last address, and the fault kept is its own
      obtain rfl : head = address := Option.some.inj ha
      obtain rfl : first = fault := Except.error.inj (hhead.symm.trans hfault)
      obtain rfl : rest = [] := List.eq_nil_of_length_eq_zero (Nat.succ.inj hlength).symm
      exact Tried.nil ..
    | succ position =>
      have hplace : history.attempted.length + (position + 1) =
          history.attempted.length + 1 + position := by omega
      exact ih ⟨hrest, position, Nat.succ.inj hlength, ha, hplace ▸ hfault⟩ (some (head, first))
        (length_attempted_refusedActs head first history)

section connect

variable {target : Target}

/-- A host that cannot be looked up is reported, and no address is tried. -/
theorem connect_of_unresolved (hr : scenario.resolve target.host target.port = .error fault)
    (history : History) :
    Delivery.connect scenario.environment target history =
      (.error (.resolve target.host fault), history ++ [.lookup target.host target.port]) := by
  rw [Delivery.connect, bind_apply, resolve_apply, hr]
  rfl

/-- What is made of the outcome of the attempts. -/
def answerOf (target : Target) :
    Except (Option (SocketAddress × SystemFault)) SocketAddress → Except SendError SocketAddress
  | .ok link => .ok link
  | .error none => .error (.noAddress target.host)
  | .error (some (address, fault)) => .error (.connect address fault)

/-- Once the host has been looked up, its addresses are tried. -/
theorem connect_of_resolved (hr : scenario.resolve target.host target.port = .ok addresses)
    (history : History) :
    Delivery.connect scenario.environment target history =
      (answerOf target (Delivery.tryEach scenario.environment target.connectTimeout none addresses
          (history ++ [.lookup target.host target.port])).1,
        (Delivery.tryEach scenario.environment target.connectTimeout none addresses
          (history ++ [.lookup target.host target.port])).2) := by
  rw [Delivery.connect, bind_apply, resolve_apply, hr]
  dsimp only
  rw [bind_apply]
  generalize Delivery.tryEach scenario.environment target.connectTimeout none addresses
    (history ++ [.lookup target.host target.port]) = outcome
  obtain ⟨answer, later⟩ := outcome
  rcases answer with (_ | ⟨address, fault⟩) | link <;> rfl

/-- What the attempts come to is what the connection comes to. -/
theorem Tried.connect (hr : scenario.resolve target.host target.port = .ok addresses)
    {history : History} {answer : Except (Option (SocketAddress × SystemFault)) SocketAddress}
    {tried : List SocketAddress}
    (h : Tried (Delivery.tryEach scenario.environment target.connectTimeout none addresses
        (history ++ [.lookup target.host target.port]))
      (history ++ [.lookup target.host target.port]) answer tried) :
    Tried (Delivery.connect scenario.environment target history)
      (history ++ [.lookup target.host target.port]) (answerOf target answer) tried := by
  rw [connect_of_resolved hr]
  exact ⟨congrArg (answerOf target) h.result, h.acts⟩

/-- A look-up is no attempt. -/
theorem length_attempted_lookup (target : Target) (history : History) :
    (history ++ [Act.lookup target.host target.port]).attempted.length =
      history.attempted.length := by
  rw [History.attempted_append]
  exact congrArg List.length (List.append_nil _)

/-- What connecting comes to once the host has been looked up, in the three cases that there
are. -/
theorem connect_of_addresses (hr : scenario.resolve target.host target.port = .ok addresses)
    (history : History) :
    (addresses = [] →
        Tried (Delivery.connect scenario.environment target history)
          (history ++ [.lookup target.host target.port]) (.error (.noAddress target.host)) []) ∧
      (∀ position link,
        scenario.FirstAccepts history.attempted.length addresses position link →
          Tried (Delivery.connect scenario.environment target history)
            (history ++ [.lookup target.host target.port]) (.ok link)
            (addresses.take (position + 1))) ∧
      ∀ address fault, scenario.AllRefuse history.attempted.length addresses address fault →
        Tried (Delivery.connect scenario.environment target history)
          (history ++ [.lookup target.host target.port]) (.error (.connect address fault))
          addresses := by
  have hcount := length_attempted_lookup target history
  refine ⟨?_, fun position link h => ?_, fun address fault h => ?_⟩
  · rintro rfl
    have hnone : Tried (Delivery.tryEach scenario.environment target.connectTimeout none []
        (history ++ [.lookup target.host target.port]))
        (history ++ [.lookup target.host target.port]) (.error none) [] :=
      Tried.nil ..
    exact hnone.connect hr
  · exact (tryEach_of_firstAccepts h target.connectTimeout none hcount).connect hr
  · exact (tryEach_of_allRefuse h target.connectTimeout none hcount).connect hr

/-- A host is reported to have no address exactly if the look-up finds none. -/
theorem connect_eq_noAddress_iff {host : String} (history : History) :
    (Delivery.connect scenario.environment target history).1 = .error (.noAddress host) ↔
      host = target.host ∧ scenario.resolve target.host target.port = .ok [] := by
  cases hr : scenario.resolve target.host target.port with
  | error fault => simp [connect_of_unresolved hr]
  | ok addresses =>
    obtain ⟨hnone, hfirst, hall⟩ := connect_of_addresses hr history
    rcases attempts_cases scenario history.attempted.length addresses with
      rfl | ⟨position, link, h⟩ | ⟨address, fault, h⟩
    · simp [(hnone rfl).result, eq_comm]
    · simp [(hfirst position link h).result, h.ne_nil]
    · simp [(hall address fault h).result, h.ne_nil]

/-- A fault of the look-up is reported exactly if there is one. -/
theorem connect_eq_resolve_iff {host : String} (history : History) :
    (Delivery.connect scenario.environment target history).1 = .error (.resolve host fault) ↔
      host = target.host ∧ scenario.resolve target.host target.port = .error fault := by
  cases hr : scenario.resolve target.host target.port with
  | error found => simp [connect_of_unresolved hr, eq_comm]
  | ok addresses =>
    obtain ⟨hnone, hfirst, hall⟩ := connect_of_addresses hr history
    rcases attempts_cases scenario history.attempted.length addresses with
      hnil | ⟨position, link, h⟩ | ⟨address, found, h⟩
    · simp [(hnone hnil).result]
    · simp [(hfirst position link h).result]
    · simp [(hall address found h).result]

/-- A connection to the first address that accepts is made after a look-up. -/
theorem connect_of_connects {history : History}
    (hr : scenario.resolve target.host target.port = .ok addresses)
    (hc : scenario.Connects history.attempted.length addresses link) :
    ∃ acts : History, Delivery.connect scenario.environment target history =
        (.ok link, history ++ acts) ∧ acts.written = [] ∧ acts.Silent := by
  obtain ⟨position, h⟩ := connects_iff_firstAccepts.mp hc
  have htried := (connect_of_addresses hr history).2.1 position link h
  obtain ⟨acts, hacts, -, honly⟩ := htried.acts
  let lookup : History := [.lookup target.host target.port]
  refine ⟨lookup ++ acts, ?_, ?_, ?_⟩
  · exact Prod.ext htried.result (hacts.trans (List.append_assoc history lookup acts))
  · rw [History.written_append, honly.written]
    rfl
  · exact History.silent_append.mpr
      ⟨by simp [lookup, History.Silent, Act.printed?], honly.silent⟩

end connect

/-- A request that cannot be sent is refused, and nothing is done. -/
theorem send_of_fault? {request : Request} {error : RequestError}
    (h : request.fault? = some error) (target : Target) (history : History) :
    Delivery.send scenario.environment target request history =
      (.error (.request error), history) := by
  rw [Delivery.send, h]
  rfl

/-- Connecting is one look-up and then one attempt at each address, in order, as far as the first
that accepts. If there are addresses and none accepts, all of them have been tried, and the last
one is reported with its fault. The two other errors are those of the look-up. A request that cannot
be sent is refused before the look-up. -/
theorem connect_tries_in_order (scenario : Scenario) (target : Target) (history : History) :
    (∀ fault, scenario.resolve target.host target.port = .error fault →
        Delivery.connect scenario.environment target history =
          (.error (.resolve target.host fault),
            history ++ [.lookup target.host target.port])) ∧
      (∀ addresses, scenario.resolve target.host target.port = .ok addresses →
        (addresses = [] ∨
            (∃ position link,
              scenario.FirstAccepts history.attempted.length addresses position link) ∨
            ∃ address fault,
              scenario.AllRefuse history.attempted.length addresses address fault) ∧
          (addresses = [] →
            Tried (Delivery.connect scenario.environment target history)
              (history ++ [.lookup target.host target.port]) (.error (.noAddress target.host))
              []) ∧
          (∀ position link,
            scenario.FirstAccepts history.attempted.length addresses position link →
              Tried (Delivery.connect scenario.environment target history)
                (history ++ [.lookup target.host target.port]) (.ok link)
                (addresses.take (position + 1))) ∧
          ∀ address fault, scenario.AllRefuse history.attempted.length addresses address fault →
            Tried (Delivery.connect scenario.environment target history)
              (history ++ [.lookup target.host target.port]) (.error (.connect address fault))
              addresses) ∧
      (∀ host,
        (Delivery.connect scenario.environment target history).1 = .error (.noAddress host) ↔
          host = target.host ∧ scenario.resolve target.host target.port = .ok []) ∧
      (∀ host fault,
        (Delivery.connect scenario.environment target history).1 = .error (.resolve host fault) ↔
          host = target.host ∧ scenario.resolve target.host target.port = .error fault) ∧
      ∀ request error, request.validate = .error error →
        Delivery.send scenario.environment target request history =
          (.error (.request error), history) := by
  refine ⟨fun fault hr => connect_of_unresolved hr history, fun addresses hr => ?_,
    fun host => connect_eq_noAddress_iff history,
    fun host fault => connect_eq_resolve_iff history, fun request error he => ?_⟩
  · exact ⟨attempts_cases scenario history.attempted.length addresses,
      connect_of_addresses hr history⟩
  · exact send_of_fault? (Request.validate_eq_error_iff.mp he) target history

/-- A host has three addresses, two of them the same, and only the second attempt of all succeeds.
The empty name cannot be looked up, and nothing is found under the name "nowhere". -/
def secondAttemptSucceeds : Scenario where
  directory := .ofPaths []
  resolve host port :=
    if host = "" then .error .nulInName
    else if host = "nowhere" then .ok []
    else .ok [⟨.v4 127 0 0 1, port, 0⟩, ⟨.v4 127 0 0 1, port, 0⟩, ⟨.v4 127 0 0 2, port, 0⟩]
  attempt before address := if before = 1 then .ok address else .error .refused
  accept _ := .ok ()
  room := none

/-- The repeated address is tried again, and the third one only in a run that has used up the
attempt that succeeds. -/
theorem connect_tries_in_order_secondAttemptSucceeds :
    Tried (Delivery.connect secondAttemptSucceeds.environment ⟨"h", 1, none⟩ [])
        [.lookup "h" 1] (.ok ⟨.v4 127 0 0 1, 1, 0⟩)
        [⟨.v4 127 0 0 1, 1, 0⟩, ⟨.v4 127 0 0 1, 1, 0⟩] ∧
      Tried
        (Delivery.connect secondAttemptSucceeds.environment ⟨"h", 1, none⟩
          [.attempt ⟨.v4 127 0 0 1, 1, 0⟩, .attempt ⟨.v4 127 0 0 1, 1, 0⟩])
        [.attempt ⟨.v4 127 0 0 1, 1, 0⟩, .attempt ⟨.v4 127 0 0 1, 1, 0⟩, .lookup "h" 1]
        (.error (.connect ⟨.v4 127 0 0 2, 1, 0⟩ .refused))
        [⟨.v4 127 0 0 1, 1, 0⟩, ⟨.v4 127 0 0 1, 1, 0⟩, ⟨.v4 127 0 0 2, 1, 0⟩] ∧
      Delivery.connect secondAttemptSucceeds.environment ⟨"", 1, none⟩ [] =
        (.error (.resolve "" .nulInName), [.lookup "" 1]) ∧
      Tried (Delivery.connect secondAttemptSucceeds.environment ⟨"nowhere", 1, none⟩ [])
        [.lookup "nowhere" 1] (.error (.noAddress "nowhere")) [] ∧
      Delivery.send secondAttemptSucceeds.environment ⟨"h", 1, none⟩ ⟨.graph, []⟩ [] =
        (.error (.request .empty), []) := by
  obtain ⟨-, hfresh, -, -, hrefused⟩ :=
    connect_tries_in_order secondAttemptSucceeds ⟨"h", 1, none⟩ []
  obtain ⟨-, hused, -⟩ := connect_tries_in_order secondAttemptSucceeds ⟨"h", 1, none⟩
    [.attempt ⟨.v4 127 0 0 1, 1, 0⟩, .attempt ⟨.v4 127 0 0 1, 1, 0⟩]
  obtain ⟨hunknown, -⟩ := connect_tries_in_order secondAttemptSucceeds ⟨"", 1, none⟩ []
  obtain ⟨-, hnowhere, -⟩ := connect_tries_in_order secondAttemptSucceeds ⟨"nowhere", 1, none⟩ []
  obtain ⟨-, -, hfirst, -⟩ := hfresh _ rfl
  obtain ⟨-, -, -, hall⟩ := hused _ rfl
  obtain ⟨-, hempty, -⟩ := hnowhere [] rfl
  have hsecond : secondAttemptSucceeds.FirstAccepts 0
      [⟨.v4 127 0 0 1, 1, 0⟩, ⟨.v4 127 0 0 1, 1, 0⟩, ⟨.v4 127 0 0 2, 1, 0⟩] 1
      ⟨.v4 127 0 0 1, 1, 0⟩ :=
    ⟨fun position hlt address ha => ⟨.refused, if_neg (by omega)⟩, _, rfl, rfl⟩
  have hnone : secondAttemptSucceeds.AllRefuse 2
      [⟨.v4 127 0 0 1, 1, 0⟩, ⟨.v4 127 0 0 1, 1, 0⟩, ⟨.v4 127 0 0 2, 1, 0⟩]
      ⟨.v4 127 0 0 2, 1, 0⟩ .refused :=
    ⟨fun position hlt address ha => ⟨.refused, if_neg (by omega)⟩, 2, rfl, rfl, rfl⟩
  exact ⟨hfirst _ _ hsecond, hall _ _ hnone, hunknown _ rfl, hempty rfl, hrefused _ _ rfl⟩

end Scenario

end AssessmentRequest

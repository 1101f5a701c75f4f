import AssessmentRequest.Scenario

/-!
# What operations do

In a scenario every operation appends its acts to the history, and the answer is the one that the
scenario has for it.

Main statements: `bind_apply` and `forM_log_apply`.
-/

namespace AssessmentRequest

namespace History

@[simp] theorem attempted_append (earlier later : History) :
    attempted (earlier ++ later) = earlier.attempted ++ later.attempted :=
  List.filterMap_append

@[simp] theorem written_append (earlier later : History) :
    written (earlier ++ later) = earlier.written ++ later.written :=
  List.filterMap_append

@[simp] theorem printed_append (earlier later : History) :
    printed (earlier ++ later) = earlier.printed ++ later.printed := by
  simp [printed]

/-- The output was left alone. -/
def Silent (history : History) : Prop := ∀ act ∈ history, act.printed? = none

@[simp] theorem silent_append {earlier later : History} :
    Silent (earlier ++ later) ↔ earlier.Silent ∧ later.Silent :=
  List.forall_mem_append

/-- The acts that record some events. -/
def ofEvents (events : List Journal.Event) : History := events.map Act.log

@[simp] theorem attempted_ofEvents (events : List Journal.Event) :
    (ofEvents events).attempted = [] := by
  simp [ofEvents, attempted, Act.attempted?, Function.comp_def]

@[simp] theorem written_ofEvents (events : List Journal.Event) : (ofEvents events).written = [] := by
  simp [ofEvents, written, Act.written?, Function.comp_def]

@[simp] theorem printed_ofEvents (events : List Journal.Event) : (ofEvents events).printed = [] := by
  simp [ofEvents, printed, Act.printed?, Function.comp_def]

@[simp] theorem silent_ofEvents (events : List Journal.Event) : (ofEvents events).Silent := by
  simp [ofEvents, Silent, Act.printed?]

end History

namespace Scenario

variable {scenario : Scenario}

/-- What comes first is done first. -/
theorem bind_apply {α β : Type} (first : StateM History α) (next : α → StateM History β)
    (history : History) : (first >>= next) history = next (first history).1 (first history).2 :=
  rfl

theorem pure_apply {α : Type} (value : α) (history : History) :
    (pure value : StateM History α) history = (value, history) := rfl

@[simp] theorem log_apply (event : Journal.Event) (history : History) :
    scenario.environment.log event history = ((), history ++ [.log event]) := rfl

@[simp] theorem resolve_apply (host : String) (port : UInt16) (history : History) :
    scenario.environment.resolve host port history =
      (scenario.resolve host port, history ++ [.lookup host port]) := rfl

@[simp] theorem connect_apply (address : SocketAddress) (timeout : Option UInt64)
    (history : History) :
    scenario.environment.connect address timeout history =
      (scenario.attempt history.attempted.length address, history ++ [.attempt address]) := rfl

@[simp] theorem peer_apply (link : SocketAddress) (history : History) :
    scenario.environment.peer link history = (scenario.peer link, history) := rfl

@[simp] theorem write_apply (link : SocketAddress) (bytes : Bytes) (history : History) :
    scenario.environment.write link bytes history =
      (scenario.accept history.written.length, history ++ [.write bytes]) := rfl

@[simp] theorem close_apply (link : SocketAddress) (history : History) :
    scenario.environment.close link history = ((), history ++ [.close]) := rfl

@[simp] theorem print_apply (bytes : Bytes) (history : History) :
    scenario.environment.print bytes history =
      (if scenario.taken history.printed.length bytes = bytes then .ok () else .error .sinkFull,
        history ++ [.print (scenario.taken history.printed.length bytes)]) := rfl

@[simp] theorem flush_apply (history : History) :
    scenario.environment.flush history = (scenario.flush, history) := rfl

/-- Events are recorded in order. -/
theorem forM_log_apply (events : List Journal.Event) (history : History) :
    events.forM scenario.environment.log history = ((), history ++ History.ofEvents events) := by
  rw [List.forM_eq_forM]
  induction events generalizing history with
  | nil => simp [pure_apply, History.ofEvents]
  | cons event events ih =>
    rw [List.forM_cons, bind_apply, log_apply, ih]
    simp [History.ofEvents]

end Scenario

end AssessmentRequest

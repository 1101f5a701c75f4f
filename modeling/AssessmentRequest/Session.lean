import AssessmentRequest.Delivery.Send

/-!
# Running a configuration

A run announces its request in the log and then either writes it to the output or delivers
it to the controller. Both refuse the same requests, for the same reason.
-/

namespace AssessmentRequest

/-- Why a run failed. -/
inductive RunError where
  /-- The request cannot be written out. -/
  | request (error : RequestError)
  /-- The request was not delivered. -/
  | send (error : SendError)
  /-- The output does not take the request, or does not pass it on. -/
  | output (fault : SystemFault)
  deriving Repr, DecidableEq

namespace RunError

/-- The message of a run error. -/
def message : RunError → String
  | request error => error.message
  | send error => error.message
  | output fault => fault.message

/-- The detailed form of a run error. -/
def detail : RunError → String
  | request error => error.detail
  | send error => error.detail
  | output fault => fault.detail

end RunError

namespace Session

open Journal

variable {m : Type → Type} [Monad m] {Link : Type}

/-- The request is about to be sent. -/
def announcement (configuration : Configuration) (request : Request) : Event :=
  ⟨.info, .run, "Sending assessment request to metadig controller (test mode)",
    [("host", configuration.host), ("port", configuration.port.toNat.repr),
      ("kind", request.kind.tag), ("tests", request.count.repr)]⟩

/-- A record of the request. -/
def recordEvent (record : Record) : Event :=
  ⟨.info, .run, "Test record", [("record", record.line)]⟩

/-- The request has been delivered. -/
def sentEvent (summary : Summary) : Event :=
  ⟨.info, .run, "Request sent",
    [("peer", summary.peer.render), ("records", summary.records.repr),
      ("bytes", summary.bytesWritten.repr)]⟩

/-- The events that announce a request. -/
def announcements (configuration : Configuration) (request : Request) : List Event :=
  announcement configuration request :: request.records.map recordEvent

/-- Writes a request to the output. -/
def printRequest (env : Environment m Link) (request : Request) :
    m (Except RunError (Option Summary)) := do
  match request.encode with
  | .error fault => pure (.error (.request fault))
  | .ok bytes =>
    match ← env.print bytes with
    | .error fault => pure (.error (.output fault))
    | .ok () =>
      match ← env.flush with
      | .error fault => pure (.error (.output fault))
      | .ok () => pure (.ok none)

/-- Delivers a request to the controller. -/
def deliverRequest (env : Environment m Link) (target : Target) (request : Request) :
    m (Except RunError (Option Summary)) := do
  match ← Delivery.send env target request with
  | .error error => pure (.error (.send error))
  | .ok summary => do
    env.log (sentEvent summary)
    pure (.ok (some summary))

/-- Runs a configuration. -/
def run (env : Environment m Link) (configuration : Configuration) :
    m (Except RunError (Option Summary)) := do
  let request := configuration.request
  (announcements configuration request).forM env.log
  if configuration.dryRun then printRequest env request
  else deliverRequest env configuration.target request

end Session

end AssessmentRequest

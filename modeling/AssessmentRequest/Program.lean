import AssessmentRequest.Journal.Filter
import AssessmentRequest.Session

/-!
# The program

From the words of the command line to the way the program ends. A text that was asked for
goes to the output; everything else that the program says about itself is a complaint.
-/

namespace AssessmentRequest

/-- How the program ends. -/
structure Exit where
  /-- Zero for success, one for a failed run, two for a wrong command line. -/
  code : UInt32
  /-- What went wrong. -/
  complaint : Option String
  deriving Repr, DecidableEq

namespace Program

variable {m : Type → Type} [Monad m] {Link : Type}

/-- The log filter of a run: that of the environment variable if it is one, else that of the
configuration, with what is said about the pieces of it that are left out. -/
def filter (override : Option String) (configuration : Configuration) :
    List String × Journal.Filter :=
  match override.bind Journal.Filter.ofText? with
  | some filter => ([], filter)
  | none => (Journal.Filter.notices configuration.logLevel, .ofText configuration.logLevel)

/-- The surroundings with a filtered log. -/
def filtered (env : Environment m Link) (filter : Journal.Filter) : Environment m Link :=
  { env with log := fun event => if filter.allows event then env.log event else pure () }

/-- The configuration of a command line. -/
def configure (env : Environment m Link) (arguments : Arguments) :
    m (Except ConfigurationError Configuration) := do
  match arguments.config with
  | none => pure (Configuration.load (fun _ => .error .notFound) arguments)
  | some path => do
    let content ← env.read path
    pure (Configuration.load (fun _ => content) arguments)

/-- Runs the program. -/
def execute (env : Environment m Link) (override : Option String) (words : List Bytes) :
    m Exit := do
  match CommandLine.parse words with
  | .error stop =>
    if stop.isText then do
      let _ ← env.print (Utf8.encode stop.message)
      let _ ← env.flush
      pure ⟨0, none⟩
    else pure ⟨2, some stop.complaint⟩
  | .ok arguments =>
    match ← configure env arguments with
    | .error error => pure ⟨1, some error.detail⟩
    | .ok configuration => do
      let (notices, filter) := filter override configuration
      notices.forM env.notice
      match ← Session.run (filtered env filter) configuration with
      | .error error => pure ⟨1, some error.detail⟩
      | .ok _ => pure ⟨0, none⟩

end Program

end AssessmentRequest

import AssessmentRequest.Settings.Mismatch

/-!
# Sections of settings

A section is a record of settings, each under a name and each with a default. In a document
it is a table, whose unknown keys are ignored, or an array with the settings in the order of
the section, whose elements beyond the last setting are ignored. Settings are taken in the
order of the document, and the first mismatch is reported.
-/

namespace AssessmentRequest

/-- One setting of a section. -/
structure Setting (σ : Type) where
  /-- The key in the document. -/
  name : String
  /-- Takes the value of the key. -/
  assign : Toml.Value → σ → Except Mismatch σ

/-- A record of settings. -/
structure Section (σ : Type) where
  /-- The name of the section in messages. -/
  title : String
  /-- The settings in the order of the array form. -/
  settings : List (Setting σ)
  /-- Every setting at its default. -/
  defaults : σ
  /-- The position of the setting that the array form has to reach. -/
  required : Option Nat

namespace Section

variable {σ : Type}

/-- Takes one key of a table. -/
def assign (sec : Section σ) (current : σ) (entry : String × Toml.Value) : Except Mismatch σ :=
  match sec.settings.find? fun setting => setting.name = entry.1 with
  | some setting => setting.assign entry.2 current
  | none => .ok current

/-- The settings of a table. -/
def ofEntries (sec : Section σ) (entries : Toml.Entries) : Except Mismatch σ :=
  entries.foldlM sec.assign sec.defaults

/-- Takes settings in the order of the section. -/
def assignInOrder (current : σ) : List (Setting σ) → List Toml.Value → Except Mismatch σ
  | setting :: settings, item :: items => do
    assignInOrder (← setting.assign item current) settings items
  | _, _ => .ok current

/-- The settings of an array. -/
def ofItems (sec : Section σ) (items : List Toml.Value) : Except Mismatch σ := do
  let result ← assignInOrder sec.defaults sec.settings items
  match sec.required with
  | none => .ok result
  | some position =>
    if items.length ≤ position then
      .error (.missingElement position sec.title sec.settings.length)
    else .ok result

/-- The settings of a value: a table, an array, or a moment, which holds no settings. -/
def ofValue (sec : Section σ) : Toml.Value → Except Mismatch σ
  | .table entries => sec.ofEntries entries
  | .array items => sec.ofItems items
  | .moment _ => .ok sec.defaults
  | value => .error (.wrongType (.ofValue value) (.record sec.title))

end Section

end AssessmentRequest

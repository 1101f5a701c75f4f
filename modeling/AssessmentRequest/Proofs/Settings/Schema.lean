import Mathlib.Data.List.Nodup
import AssessmentRequest.Settings.File
import AssessmentRequest.Proofs.Toml.WellFormed

/-!
# What a settings file may hold

A section is described by its keys and what each of them may hold. From the description follows
what is reported about a document: the first known key, in the order of the document, that holds
something else. Nothing is said here of how a document is read.

Main statements: `Shape.fits_iff`, `exists_firstRejected_iff` and `foldlM_eq_error_iff`.
-/

namespace AssessmentRequest.Settings

open Toml (Value Entries)

/-- What a setting may hold. -/
inductive Shape where
  /-- Any string. -/
  | text
  /-- An integer between zero and a greatest one. -/
  | number (greatest : Int) (wanted : Wanted)
  /-- An array of strings. -/
  | texts
  deriving Repr, DecidableEq

namespace Shape

/-- The value is what the setting may hold. -/
inductive Fits : Shape → Value → Prop where
  | text (content : String) : Fits .text (.string content)
  | number {greatest number : Int} {wanted : Wanted} :
    0 ≤ number → number ≤ greatest → Fits (.number greatest wanted) (.integer number)
  | texts (contents : List String) : Fits .texts (.array (contents.map .string))

/-- How a value that does not fit is reported. -/
inductive Rejects : Shape → Value → Mismatch → Prop where
  | notText {value : Value} :
    (∀ content, value ≠ .string content) → Rejects .text value (.wrongType (.ofValue value) .text)
  | notInteger {greatest : Int} {wanted : Wanted} {value : Value} :
    (∀ number, value ≠ .integer number) →
      Rejects (.number greatest wanted) value (.wrongType (.ofValue value) wanted)
  | outOfRange {greatest number : Int} {wanted : Wanted} :
    ¬ (0 ≤ number ∧ number ≤ greatest) →
      Rejects (.number greatest wanted) (.integer number) (.outOfRange number wanted)
  | notArray {value : Value} :
    (∀ items, value ≠ .array items) →
      Rejects .texts value (.wrongType (.ofValue value) .sequence)
  /-- Of the elements, the first that is no string is reported. -/
  | element {before : List String} {item : Value} {after : List Value} :
    (∀ content, item ≠ .string content) →
      Rejects .texts (.array (before.map .string ++ item :: after))
        (.wrongType (.ofValue item) .text)

end Shape

/-- A section of a settings file. -/
structure Schema where
  /-- The key of the section in a document. -/
  name : String
  /-- The name of the section in messages. -/
  title : String
  /-- The keys of the section, in the order of its array form. -/
  keys : List (String × Shape)
  /-- The position that the array form has to reach. -/
  required : Option Nat

namespace Schema

/-- The server section. -/
def server : Schema where
  name := "server"
  title := "ServerConfig"
  keys := [("host", .text), ("port", .number 65535 .word16),
    ("connect_timeout_ms", .number 9223372036854775807 .word64)]
  required := some 2

/-- The request section. -/
def request : Schema where
  name := "request"
  title := "RequestConfig"
  keys := [("kind", .text), ("suite_id", .text), ("node_id", .text), ("test_dir", .text),
    ("identifiers", .texts)]
  required := none

/-- The logging section. -/
def logging : Schema where
  name := "logging"
  title := "LoggingConfig"
  keys := [("level", .text)]
  required := none

/-- The sections of a settings file. -/
def all : List Schema := [server, request, logging]

/-- The server section is one. -/
theorem server_mem : server ∈ all := .head _

/-- The request section is one. -/
theorem request_mem : request ∈ all := .tail _ (.head _)

/-- The logging section is one. -/
theorem logging_mem : logging ∈ all := .tail _ (.tail _ (.head _))

/-- The names of the keys of a section. -/
def names (schema : Schema) : List String := schema.keys.map Prod.fst

/-- What a section says under its keys: a table as it stands, an array by giving its elements to
the keys in order. -/
def entries (schema : Schema) : Value → Entries
  | .table entries => entries
  | .array items => schema.names.zip items
  | _ => []

end Schema

/-- The first entry that is rejected, and how. -/
def FirstRejected (rejects : String → Value → Mismatch → Prop) (entries : Entries)
    (mismatch : Mismatch) : Prop :=
  ∃ before key value after, entries = before ++ (key, value) :: after ∧
    (∀ entry ∈ before, ∀ other, ¬ rejects entry.1 entry.2 other) ∧ rejects key value mismatch

namespace Schema

/-- A known key of the section holds a value that does not fit. -/
def RejectsKey (schema : Schema) (key : String) (value : Value) (mismatch : Mismatch) : Prop :=
  ∃ entry ∈ schema.keys, entry.1 = key ∧ entry.2.Rejects value mismatch

/-- How a value that is no such section is reported. -/
inductive Rejects (schema : Schema) : Value → Mismatch → Prop where
  /-- A section is a table or an array; a moment counts as a table without keys. -/
  | notSection {value : Value} :
    (∀ entries, value ≠ .table entries) → (∀ items, value ≠ .array items) →
      (∀ literal, value ≠ .moment literal) →
      Rejects schema value (.wrongType (.ofValue value) (.record schema.title))
  /-- The first key that does not fit is reported. -/
  | key {value : Value} {mismatch : Mismatch} :
    FirstRejected schema.RejectsKey (schema.entries value) mismatch →
      Rejects schema value mismatch
  /-- An array whose elements fit can be too short. -/
  | tooShort {items : List Value} {position : Nat} :
    schema.required = some position → items.length ≤ position →
      (∀ other, ¬ FirstRejected schema.RejectsKey (schema.entries (.array items)) other) →
      Rejects schema (.array items)
        (.missingElement position schema.title schema.keys.length)

end Schema

/-- A section of a document holds a value that is no such section. -/
def RejectsSection (name : String) (value : Value) (mismatch : Mismatch) : Prop :=
  ∃ schema ∈ Schema.all, schema.name = name ∧ schema.Rejects value mismatch

/-- The document gives the value to a key of the section. -/
def States (document : Entries) (schema : Schema) (key : String) (value : Value) : Prop :=
  ∃ part, (schema.name, part) ∈ document ∧ (key, value) ∈ schema.entries part

/-- The choice is what is stated, if anything is, and the default otherwise. -/
inductive Stated {α : Type} (stated : Value → Prop) (means : α → Value → Prop) (default : α) :
    α → Prop where
  | given {choice : α} {value : Value} :
    stated value → means choice value → Stated stated means default choice
  | absent : (∀ value, ¬ stated value) → Stated stated means default default

section Stated

variable {α : Type} {stated other : Value → Prop} {means : α → Value → Prop} {default choice : α}

/-- Where nothing is stated, the choice is the default. -/
theorem Stated.eq_default (h : Stated stated means default choice)
    (hno : ∀ value, ¬ stated value) : choice = default := by
  cases h with
  | given hv _ => exact absurd hv (hno _)
  | absent _ => rfl

/-- Only what is stated matters. -/
theorem Stated.congr (h : Stated stated means default choice)
    (hiff : ∀ value, stated value ↔ other value) : Stated other means default choice := by
  cases h with
  | given hv hm => exact .given ((hiff _).mp hv) hm
  | absent hno => exact .absent fun value hv => hno value ((hiff value).mpr hv)

/-- There is one choice, if at most one value is stated and it means one thing. -/
theorem Stated.unique {choice' : α} (h : Stated stated means default choice)
    (h' : Stated stated means default choice')
    (hone : ∀ value value', stated value → stated value' → value = value')
    (hmeans : ∀ value, means choice value → means choice' value → choice = choice') :
    choice = choice' := by
  cases h with
  | @given _ value hv hm =>
    cases h' with
    | @given _ value' hv' hm' =>
      obtain rfl := hone value value' hv hv'
      exact hmeans value hm hm'
    | absent hno => exact absurd hv (hno value)
  | absent hno => exact (h'.eq_default hno).symm

end Stated

/-- Without entries nothing is rejected. -/
theorem not_firstRejected_nil {rejects : String → Value → Mismatch → Prop}
    {mismatch : Mismatch} : ¬ FirstRejected rejects [] mismatch := by
  intro h
  obtain ⟨before, key, value, after, he, -, -⟩ := h
  simp at he

namespace Schema

variable {schema : Schema} {value : Value}

/-- What stands under the keys of a section can stand in a document. -/
theorem wellFormed_entries (h : value.WellFormed) :
    ∀ entry ∈ schema.entries value, entry.2.WellFormed := by
  cases h with
  | table _ hentries => exact hentries
  | array hitems => exact fun entry hm => hitems entry.2 (List.of_mem_zip hm).2
  | _ => simp [entries]

/-- The keys of a section differ. -/
theorem nodup_names : ∀ schema ∈ all, schema.names.Nodup := by
  decide

/-- The table of an array gives its elements to keys that differ. -/
theorem nodup_zip_names (hn : schema.names.Nodup) (items : List Value) :
    ((schema.names.zip items).map Prod.fst).Nodup := by
  rw [List.zip_eq_zip_take_min, List.map_fst_zip (by simp)]
  exact hn.sublist (List.take_sublist ..)

/-- A section says one thing under each key. -/
theorem nodup_entries (hn : schema.names.Nodup) (h : value.WellFormed) :
    ((schema.entries value).map Prod.fst).Nodup := by
  cases h with
  | table hkeys _ => exact hkeys
  | @array items _ => exact schema.nodup_zip_names hn items
  | _ => simp [entries]

/-- A table is rejected by its keys only. -/
theorem rejects_table_iff {entries : Entries} {mismatch : Mismatch} :
    schema.Rejects (.table entries) mismatch ↔
      FirstRejected schema.RejectsKey entries mismatch := by
  constructor
  · intro h
    cases h with
    | notSection hno _ _ => exact absurd rfl (hno entries)
    | key hfirst => exact hfirst
  · exact fun hfirst => .key hfirst

/-- What is neither a table nor an array is rejected as what it is, unless it is a moment. -/
theorem rejects_iff_of_not_section (htable : ∀ entries, value ≠ .table entries)
    (harray : ∀ items, value ≠ .array items) {mismatch : Mismatch} :
    schema.Rejects value mismatch ↔
      (∀ literal, value ≠ .moment literal) ∧
        mismatch = .wrongType (.ofValue value) (.record schema.title) := by
  constructor
  · intro h
    cases h with
    | notSection _ _ hmoment => exact ⟨hmoment, rfl⟩
    | key hfirst =>
      rw [entries.eq_3 _ _ htable harray] at hfirst
      exact absurd hfirst not_firstRejected_nil
    | tooShort => exact absurd rfl (harray _)
  · rintro ⟨hmoment, rfl⟩
    exact .notSection htable harray hmoment

end Schema

namespace Shape

/-- The elements of an array are strings, or there is a first one that is not. -/
theorem strings_or_first (items : List Value) :
    (∃ contents : List String, items = contents.map .string) ∨
      ∃ (before : List String) (item : Value) (after : List Value),
        items = before.map .string ++ item :: after ∧ ∀ content, item ≠ .string content := by
  induction items with
  | nil => exact .inl ⟨[], rfl⟩
  | cons item rest ih =>
    by_cases hitem : ∃ content, item = .string content
    · obtain ⟨content, rfl⟩ := hitem
      rcases ih with ⟨contents, rfl⟩ | ⟨before, other, after, rfl, hother⟩
      · exact .inl ⟨content :: contents, rfl⟩
      · exact .inr ⟨content :: before, other, after, rfl, hother⟩
    · exact .inr ⟨[], item, rest, rfl, not_exists.mp hitem⟩

/-- What fits is not rejected. -/
theorem Fits.not_rejects {shape : Shape} {value : Value} (hf : shape.Fits value)
    (mismatch : Mismatch) : ¬ shape.Rejects value mismatch := by
  intro hr
  cases hf with
  | text content =>
    cases hr with
    | notText hno => exact hno content rfl
  | @number greatest number wanted hlow hhigh =>
    cases hr with
    | notInteger hno => exact hno number rfl
    | outOfRange hrange => exact hrange ⟨hlow, hhigh⟩
  | texts contents =>
    generalize hitems : contents.map Value.string = items at hr
    cases hr with
    | notArray hno => exact hno _ rfl
    | @element before item after hno =>
      have hm : item ∈ contents.map Value.string := by
        rw [hitems]
        exact List.mem_append_right _ (List.mem_cons_self ..)
      obtain ⟨content, -, hc⟩ := List.mem_map.mp hm
      exact hno content hc.symm

/-- A value fits or is rejected. -/
theorem fits_or_rejects (shape : Shape) (value : Value) :
    shape.Fits value ∨ ∃ mismatch, shape.Rejects value mismatch := by
  cases shape with
  | text =>
    by_cases hv : ∃ content, value = .string content
    · obtain ⟨content, rfl⟩ := hv
      exact .inl (.text content)
    · exact .inr ⟨_, .notText (not_exists.mp hv)⟩
  | number greatest wanted =>
    by_cases hv : ∃ number, value = .integer number
    · obtain ⟨number, rfl⟩ := hv
      by_cases hrange : 0 ≤ number ∧ number ≤ greatest
      · exact .inl (.number hrange.1 hrange.2)
      · exact .inr ⟨_, .outOfRange hrange⟩
    · exact .inr ⟨_, .notInteger (not_exists.mp hv)⟩
  | texts =>
    by_cases hv : ∃ items, value = .array items
    · obtain ⟨items, rfl⟩ := hv
      rcases strings_or_first items with ⟨contents, rfl⟩ | ⟨before, item, after, rfl, hno⟩
      · exact .inl (.texts contents)
      · exact .inr ⟨_, .element hno⟩
    · exact .inr ⟨_, .notArray (not_exists.mp hv)⟩

/-- A value fits exactly if it is not rejected. -/
theorem fits_iff {shape : Shape} {value : Value} :
    shape.Fits value ↔ ∀ mismatch, ¬ shape.Rejects value mismatch := by
  constructor
  · exact Fits.not_rejects
  · intro h
    rcases fits_or_rejects shape value with hf | ⟨mismatch, hr⟩
    · exact hf
    · exact absurd hr (h mismatch)

end Shape

section FirstRejected

variable {rejects : String → Value → Mismatch → Prop} {mismatch : Mismatch}

/-- The first entry is rejected, or the first one rejected is among the others. -/
theorem firstRejected_cons_iff {entry : String × Value} {rest : Entries} :
    FirstRejected rejects (entry :: rest) mismatch ↔
      rejects entry.1 entry.2 mismatch ∨
        (∀ other, ¬ rejects entry.1 entry.2 other) ∧ FirstRejected rejects rest mismatch := by
  constructor
  · intro h
    obtain ⟨before, key, value, after, he, hbefore, hr⟩ := h
    cases before with
    | nil =>
      obtain ⟨rfl, -⟩ := List.cons.inj he
      exact .inl hr
    | cons first before =>
      obtain ⟨rfl, rfl⟩ := List.cons.inj he
      obtain ⟨hfirst, hothers⟩ := List.forall_mem_cons.mp hbefore
      exact .inr ⟨hfirst, before, key, value, after, rfl, hothers, hr⟩
  · intro h
    rcases h with hr | ⟨hfirst, before, key, value, after, rfl, hbefore, hr⟩
    · exact ⟨[], entry.1, entry.2, rest, rfl, by simp, hr⟩
    · exact ⟨entry :: before, key, value, after, rfl,
        List.forall_mem_cons.mpr ⟨hfirst, hbefore⟩, hr⟩

/-- There is a first rejected entry exactly if any is rejected. -/
theorem exists_firstRejected_iff {entries : Entries} :
    (∃ mismatch, FirstRejected rejects entries mismatch) ↔
      ∃ entry ∈ entries, ∃ mismatch, rejects entry.1 entry.2 mismatch := by
  induction entries with
  | nil => simp [not_firstRejected_nil]
  | cons entry rest ih =>
    simp only [firstRejected_cons_iff, List.exists_mem_cons_iff, ← ih]
    by_cases hentry : ∃ mismatch, rejects entry.1 entry.2 mismatch
    · obtain ⟨mismatch, hr⟩ := hentry
      exact ⟨fun _ => .inl ⟨mismatch, hr⟩, fun _ => ⟨mismatch, .inl hr⟩⟩
    · have hno := not_exists.mp hentry
      simp only [hno, false_or, not_false_eq_true, implies_true, true_and, exists_false]

/-- The error of a reading in turn is how the first rejected entry is reported, if the errors of
single steps are how single entries are reported. -/
theorem foldlM_eq_error_iff {σ : Type} {step : σ → String × Value → Except Mismatch σ}
    {entries : Entries}
    (h : ∀ current, ∀ entry ∈ entries, ∀ mismatch,
      step current entry = .error mismatch ↔ rejects entry.1 entry.2 mismatch) (start : σ) :
    entries.foldlM step start = .error mismatch ↔ FirstRejected rejects entries mismatch := by
  induction entries generalizing start with
  | nil =>
    constructor
    · intro he
      cases he
    · exact fun hf => absurd hf not_firstRejected_nil
  | cons entry rest ih =>
    have hentry := h start entry (List.mem_cons_self ..)
    have hrest := ih fun current other hm => h current other (List.mem_cons_of_mem _ hm)
    rw [List.foldlM_cons, firstRejected_cons_iff, ← hentry]
    cases hs : step start entry with
    | error fault =>
      have hfault := (hentry fault).mp hs
      constructor
      · exact .inl
      · rintro (he | ⟨hno, -⟩)
        · exact he
        · exact absurd hfault (hno fault)
    | ok next =>
      have hno : ∀ other, ¬ rejects entry.1 entry.2 other := by
        intro other hr
        rw [(hentry other).mpr hr] at hs
        contradiction
      constructor
      · intro he
        exact .inr ⟨hno, (hrest next).mp he⟩
      · rintro (he | ⟨-, hf⟩)
        · contradiction
        · exact (hrest next).mpr hf

end FirstRejected

end AssessmentRequest.Settings

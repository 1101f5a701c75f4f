import AssessmentRequest.Proofs.Matching
import AssessmentRequest.Proofs.Outcome
import AssessmentRequest.Proofs.Settings.Schema

/-!
# Reading a section

A section that follows a description reports what the description says. Its array form is read
as the table that gives the elements to the keys in order. After reading, each setting is what its
key holds, or what it was before. Keys that the section does not know change nothing.

Main statements: `Section.Follows.ofValue_eq_error_iff`, `Section.Sets.stated` and
`Section.ofEntries_insert`.
-/

namespace AssessmentRequest

open Matching Outcome
open Settings (Schema Stated FirstRejected)

variable {σ α : Type}

namespace Setting

/-- A setting that reads a value, whatever has been taken before, and puts what it has read in its
place. -/
def reading (name : String) (read : Toml.Value → Except Mismatch α) (put : σ → α → σ) :
    Setting σ where
  name := name
  assign value current := (read value).map (put current)

section Reading

variable {β : Type} {name other : String} {read : Toml.Value → Except Mismatch β}
  {put : σ → β → σ} {value : Toml.Value} {current next : σ} {mismatch : Mismatch}

/-- A setting takes what it can read. -/
theorem assign_reading_eq_ok_iff :
    (reading name read put).assign value current = .ok next ↔
      ∃ content, read value = .ok content ∧ put current content = next :=
  map_eq_ok_iff

/-- A setting reports what it cannot read. -/
theorem assign_reading_eq_error_iff :
    (reading name read put).assign value current = .error mismatch ↔
      read value = .error mismatch :=
  map_eq_error_iff

/-- The setting has the name, and reports what is to be rejected under it, whatever has been taken
before. -/
structure Reports (setting : Setting σ) (name : String)
    (rejects : Toml.Value → Mismatch → Prop) : Prop where
  name : setting.name = name
  assign_eq_error_iff : ∀ {value : Toml.Value}, value.WellFormed → ∀ current mismatch,
    setting.assign value current = .error mismatch ↔ rejects value mismatch

/-- A setting reports what its reader does. -/
theorem reports_reading {rejects : Toml.Value → Mismatch → Prop}
    (h : ∀ {value : Toml.Value}, value.WellFormed → ∀ mismatch,
      read value = .error mismatch ↔ rejects value mismatch) :
    (reading name read put).Reports name rejects := by
  refine ⟨rfl, fun hv current mismatch => ?_⟩
  rw [assign_reading_eq_error_iff, h hv mismatch]

/-- What a setting does to a part of the record: under its own key it gives it a meaning, under
another key it leaves it alone. -/
def Affects (setting : Setting σ) (name : String) (get : σ → α)
    (means : α → Toml.Value → Prop) : Prop :=
  ∀ value current next, setting.assign value current = .ok next →
    (setting.name = name → means (get next) value) ∧
      (setting.name ≠ name → get next = get current)

/-- A setting puts what it reads where its part of the record is. -/
theorem affects_reading_self {get : σ → α} {means : α → Toml.Value → Prop}
    (h : ∀ value current content, read value = .ok content →
      means (get (put current content)) value) :
    (reading name read put).Affects name get means := by
  intro value current next ha
  obtain ⟨content, hr, rfl⟩ := assign_reading_eq_ok_iff.mp ha
  exact ⟨fun _ => h value current content hr, fun hne => absurd rfl hne⟩

/-- A setting puts what it reads nowhere else. -/
theorem affects_reading_other {get : σ → α} {means : α → Toml.Value → Prop} (hne : other ≠ name)
    (h : ∀ current content, get (put current content) = get current) :
    (reading other read put).Affects name get means := by
  intro value current next ha
  obtain ⟨content, hr, rfl⟩ := assign_reading_eq_ok_iff.mp ha
  exact ⟨fun he => absurd he hne, fun _ => h current content⟩

end Reading

end Setting

namespace Section

variable {sec : Section σ}

/-- A setting is found under its name, and nothing else is. -/
theorem find?_name_eq_some_iff (h : (sec.settings.map Setting.name).Nodup) {name : String}
    {setting : Setting σ} :
    (sec.settings.find? fun other => other.name = name) = some setting ↔
      setting ∈ sec.settings ∧ setting.name = name := by
  constructor
  · intro hf
    exact ⟨List.mem_of_find?_eq_some hf, by simpa using List.find?_some hf⟩
  · rintro ⟨hm, rfl⟩
    have hsome : (sec.settings.find? fun other => other.name = setting.name).isSome :=
      List.find?_isSome.mpr ⟨setting, hm, by simp⟩
    obtain ⟨other, hf⟩ := Option.isSome_iff_exists.mp hsome
    have hname : other.name = setting.name := by simpa using List.find?_some hf
    rw [hf, List.inj_on_of_nodup_map h (List.mem_of_find?_eq_some hf) hm hname]

/-- The value of a key goes to the setting of that name. -/
theorem assign_of_mem (h : (sec.settings.map Setting.name).Nodup) {setting : Setting σ}
    (hm : setting ∈ sec.settings) (current : σ) (value : Toml.Value) :
    sec.assign current (setting.name, value) = setting.assign value current := by
  rw [assign, (find?_name_eq_some_iff h).mpr ⟨hm, rfl⟩]

/-- An unknown key is passed over. -/
theorem assign_of_unknown {key : String} (h : key ∉ sec.settings.map Setting.name) (current : σ)
    (value : Toml.Value) : sec.assign current (key, value) = .ok current := by
  have hf : (sec.settings.find? fun setting => setting.name = key) = none := by
    rw [List.find?_eq_none]
    intro setting hm hname
    exact h (List.mem_map.mpr ⟨setting, hm, of_decide_eq_true hname⟩)
  rw [assign, hf]

/-- The settings have the names of the parts, in order, and report what is to be rejected in
them. -/
structure Reports {ι : Type} (sec : Section σ) (name : ι → String)
    (rejects : ι → Toml.Value → Mismatch → Prop) (parts : List ι) : Prop where
  settings : List.Forall₂ (fun setting part => setting.Reports (name part) (rejects part))
    sec.settings parts
  distinct : (parts.map name).Nodup

section Reports

variable {ι : Type} {name : ι → String} {rejects : ι → Toml.Value → Mismatch → Prop}
  {parts : List ι}

/-- The names of the settings are those of the parts. -/
theorem Reports.map_name (h : sec.Reports name rejects parts) :
    sec.settings.map Setting.name = parts.map name :=
  map_eq_map_of_forall₂ (h.settings.imp fun _ _ hs => hs.name)

/-- The settings have different names. -/
theorem Reports.distinct_names (h : sec.Reports name rejects parts) :
    (sec.settings.map Setting.name).Nodup := by
  rw [h.map_name]
  exact h.distinct

/-- Each part has a setting. -/
theorem Reports.exists_setting (h : sec.Reports name rejects parts) {part : ι}
    (hp : part ∈ parts) :
    ∃ setting ∈ sec.settings, setting.Reports (name part) (rejects part) :=
  exists_of_mem_right h.settings hp

/-- One entry of a table is reported if it is to be rejected in the part of its name. -/
theorem Reports.assign_eq_error_iff (h : sec.Reports name rejects parts)
    {entry : String × Toml.Value} (hv : entry.2.WellFormed) (current : σ) (mismatch : Mismatch) :
    sec.assign current entry = .error mismatch ↔
      ∃ part ∈ parts, name part = entry.1 ∧ rejects part entry.2 mismatch := by
  obtain ⟨key, value⟩ := entry
  by_cases hk : key ∈ parts.map name
  · obtain ⟨part, hm, rfl⟩ := List.mem_map.mp hk
    obtain ⟨setting, hsetting, hreports⟩ := h.exists_setting hm
    have hassign := assign_of_mem h.distinct_names hsetting current value
    rw [hreports.name] at hassign
    rw [hassign, hreports.assign_eq_error_iff hv]
    constructor
    · exact fun hr => ⟨part, hm, rfl, hr⟩
    · rintro ⟨other, ho, hname, hr⟩
      obtain rfl := List.inj_on_of_nodup_map h.distinct ho hm hname
      exact hr
  · rw [assign_of_unknown (by rwa [h.map_name])]
    constructor
    · intro he
      contradiction
    · rintro ⟨part, hm, rfl, -⟩
      exact absurd (List.mem_map_of_mem hm) hk

/-- A table is reported by its first entry that is to be rejected. -/
theorem Reports.ofEntries_eq_error_iff (h : sec.Reports name rejects parts)
    {entries : Toml.Entries} (hv : ∀ entry ∈ entries, entry.2.WellFormed) {mismatch : Mismatch} :
    sec.ofEntries entries = .error mismatch ↔
      FirstRejected
        (fun key value mismatch => ∃ part ∈ parts, name part = key ∧ rejects part value mismatch)
        entries mismatch :=
  Settings.foldlM_eq_error_iff
    (fun current entry hm other => h.assign_eq_error_iff (hv entry hm) current other) sec.defaults

end Reports

/-- Elements are taken as if they stood under the names of the settings. -/
theorem assignInOrder_eq_foldlM (h : (sec.settings.map Setting.name).Nodup)
    {settings : List (Setting σ)} (hm : ∀ setting ∈ settings, setting ∈ sec.settings)
    (items : List Toml.Value) (current : σ) :
    assignInOrder current settings items =
      ((settings.map Setting.name).zip items).foldlM sec.assign current := by
  induction settings generalizing items current with
  | nil => rfl
  | cons setting settings ih =>
    obtain ⟨hsetting, hrest⟩ := List.forall_mem_cons.mp hm
    cases items with
    | nil => rfl
    | cons item items =>
      rw [assignInOrder, List.map_cons, List.zip_cons_cons, List.foldlM_cons,
        assign_of_mem h hsetting]
      exact bind_congr fun next => ih hrest items next

/-- The section has the keys of the description, in order, and is as strict. -/
structure Follows (sec : Section σ) (schema : Schema) : Prop where
  title : sec.title = schema.title
  required : sec.required = schema.required
  reports : sec.Reports Prod.fst (fun entry => entry.2.Rejects) schema.keys

section Follows

variable {schema : Schema}

/-- A table is reported by its first key that may not hold its value. -/
theorem Follows.ofEntries_eq_error_iff (h : sec.Follows schema) {entries : Toml.Entries}
    (hv : ∀ entry ∈ entries, entry.2.WellFormed) {mismatch : Mismatch} :
    sec.ofEntries entries = .error mismatch ↔
      FirstRejected schema.RejectsKey entries mismatch :=
  h.reports.ofEntries_eq_error_iff hv

/-- An array is read as the table that gives its elements to the keys in order, and then has to
be long enough. -/
theorem Follows.ofItems_eq (h : sec.Follows schema) (items : List Toml.Value) :
    sec.ofItems items = (sec.ofEntries (schema.entries (.array items))).bind fun result =>
      match schema.required with
      | none => .ok result
      | some position =>
        if items.length ≤ position then
          .error (.missingElement position schema.title schema.keys.length)
        else .ok result := by
  have hzip : assignInOrder sec.defaults sec.settings items =
      sec.ofEntries (schema.entries (.array items)) := by
    rw [assignInOrder_eq_foldlM h.reports.distinct_names (fun _ hm => hm), h.reports.map_name]
    rfl
  rw [ofItems, hzip, h.required, h.title, h.reports.settings.length_eq]
  rfl

/-- An array is too short if something is required and it does not reach that far. -/
theorem Follows.ofItems_eq_ok_iff (h : sec.Follows schema) {items : List Toml.Value} {result : σ} :
    sec.ofItems items = .ok result ↔
      sec.ofEntries (schema.entries (.array items)) = .ok result ∧
        ∀ position, schema.required = some position → position < items.length := by
  rw [h.ofItems_eq]
  cases sec.ofEntries (schema.entries (.array items)) with
  | error mismatch => simp [Except.bind]
  | ok taken =>
    cases schema.required with
    | none => simp [Except.bind]
    | some position =>
      by_cases hshort : items.length ≤ position
      · simp [Except.bind, hshort]
      · simp [Except.bind, hshort, Nat.lt_of_not_le hshort]

/-- What is read of a section is what its keys hold. -/
theorem Follows.ofEntries_of_ofValue (h : sec.Follows schema) {value : Toml.Value} {result : σ}
    (hr : sec.ofValue value = .ok result) :
    sec.ofEntries (schema.entries value) = .ok result := by
  cases value with
  | table entries => exact hr
  | array items => exact (h.ofItems_eq_ok_iff.mp hr).1
  | moment literal => exact hr
  | _ => contradiction

/-- An array is reported for its elements, or else for its length. -/
theorem Follows.ofItems_eq_error_cases (h : sec.Follows schema) {items : List Toml.Value}
    {mismatch : Mismatch} :
    sec.ofItems items = .error mismatch ↔
      sec.ofEntries (schema.entries (.array items)) = .error mismatch ∨
        (∃ result, sec.ofEntries (schema.entries (.array items)) = .ok result) ∧
          ∃ position, schema.required = some position ∧ items.length ≤ position ∧
            mismatch = .missingElement position schema.title schema.keys.length := by
  rw [h.ofItems_eq]
  cases sec.ofEntries (schema.entries (.array items)) with
  | error fault => simp [Except.bind]
  | ok taken =>
    cases schema.required with
    | none => simp [Except.bind]
    | some position =>
      by_cases hshort : items.length ≤ position
      · simp [Except.bind, hshort, eq_comm]
      · simp [Except.bind, hshort]

/-- What is reported about an array is that it is no section of the description. -/
theorem Follows.ofItems_eq_error_iff (h : sec.Follows schema) {items : List Toml.Value}
    (hv : (Toml.Value.array items).WellFormed) {mismatch : Mismatch} :
    sec.ofItems items = .error mismatch ↔ schema.Rejects (.array items) mismatch := by
  have hentries (other : Mismatch) :
      sec.ofEntries (schema.entries (.array items)) = .error other ↔
        FirstRejected schema.RejectsKey (schema.entries (.array items)) other :=
    h.ofEntries_eq_error_iff (schema.wellFormed_entries hv)
  rw [h.ofItems_eq_error_cases]
  constructor
  · rintro (he | ⟨⟨result, hr⟩, position, hp, hshort, rfl⟩)
    · exact .key ((hentries mismatch).mp he)
    · refine .tooShort hp hshort fun other hfirst => ?_
      rw [← hentries, hr] at hfirst
      contradiction
  · intro hr
    cases hr with
    | notSection _ hno _ => exact absurd rfl (hno items)
    | key hfirst => exact .inl ((hentries mismatch).mpr hfirst)
    | tooShort hp hshort hno =>
      refine .inr ⟨?_, _, hp, hshort, rfl⟩
      cases ht : sec.ofEntries (schema.entries (.array items)) with
      | ok result => exact ⟨result, rfl⟩
      | error fault => exact absurd ((hentries fault).mp ht) (hno fault)

/-- What is reported about a value is that it is no section of the description. -/
theorem Follows.ofValue_eq_error_iff (h : sec.Follows schema) {value : Toml.Value}
    (hv : value.WellFormed) {mismatch : Mismatch} :
    sec.ofValue value = .error mismatch ↔ schema.Rejects value mismatch := by
  cases value with
  | table entries =>
    rw [Schema.rejects_table_iff]
    exact h.ofEntries_eq_error_iff (schema.wellFormed_entries hv)
  | array items => exact h.ofItems_eq_error_iff hv
  | moment literal => rw [Schema.rejects_iff_of_not_section] <;> simp [ofValue]
  | string text => rw [Schema.rejects_iff_of_not_section] <;> simp [ofValue, h.title, eq_comm]
  | integer value => rw [Schema.rejects_iff_of_not_section] <;> simp [ofValue, h.title, eq_comm]
  | float value => rw [Schema.rejects_iff_of_not_section] <;> simp [ofValue, h.title, eq_comm]
  | boolean value => rw [Schema.rejects_iff_of_not_section] <;> simp [ofValue, h.title, eq_comm]

end Follows

/-- Under its name, and there only, the section gives a part of the record a meaning. -/
structure Sets (sec : Section σ) (name : String) (get : σ → α)
    (means : α → Toml.Value → Prop) : Prop where
  known : name ∈ sec.settings.map Setting.name
  affects : ∀ setting ∈ sec.settings, setting.Affects name get means

/-- One entry of a table gives the part a meaning if it has its name, and leaves it alone
otherwise. -/
theorem Sets.of_assign {name : String} {get : σ → α} {means : α → Toml.Value → Prop}
    (h : sec.Sets name get means) (hd : (sec.settings.map Setting.name).Nodup)
    {current next : σ} {entry : String × Toml.Value} (ha : sec.assign current entry = .ok next) :
    (entry.1 = name → means (get next) entry.2) ∧ (entry.1 ≠ name → get next = get current) := by
  obtain ⟨key, value⟩ := entry
  by_cases hk : key ∈ sec.settings.map Setting.name
  · obtain ⟨setting, hm, rfl⟩ := List.mem_map.mp hk
    rw [assign_of_mem hd hm] at ha
    exact h.affects setting hm value current next ha
  · rw [assign_of_unknown hk] at ha
    obtain rfl := Except.ok.inj ha
    exact ⟨fun he : key = name => absurd (he ▸ h.known) hk, fun _ => rfl⟩

/-- After a table has been read, a part is what its key holds, or what it was before. -/
theorem Sets.stated {name : String} {get : σ → α} {means : α → Toml.Value → Prop}
    (h : sec.Sets name get means) (hd : (sec.settings.map Setting.name).Nodup)
    {entries : Toml.Entries} (hkeys : (entries.map Prod.fst).Nodup) {start result : σ}
    (hr : entries.foldlM sec.assign start = .ok result) :
    Stated (fun value => (name, value) ∈ entries) means (get start) (get result) := by
  induction entries generalizing start with
  | nil =>
    obtain rfl := Except.ok.inj hr
    exact .absent fun value hm => absurd hm List.not_mem_nil
  | cons entry rest ih =>
    obtain ⟨hentry, hrest⟩ := List.nodup_cons.mp hkeys
    obtain ⟨next, hnext, hr⟩ := bind_eq_ok_iff.mp hr
    obtain ⟨hsame, hother⟩ := h.of_assign hd hnext
    have hstated := ih hrest hr
    by_cases hname : entry.1 = name
    · -- the key is there once, so the rest leaves alone what it has given
      have hno : ∀ value, (name, value) ∉ rest := by
        intro value hm
        exact hentry (hname ▸ List.mem_map_of_mem hm)
      rw [hstated.eq_default hno]
      exact .given (hname ▸ List.mem_cons_self ..) (hsame hname)
    · rw [← hother hname]
      refine hstated.congr fun value => ?_
      rw [List.mem_cons]
      exact (or_iff_right fun he : (name, value) = entry => hname (he ▸ rfl)).symm

/-- Reading goes on where the first part of a table has been read. -/
theorem ofEntries_append (sec : Section σ) (entries others : Toml.Entries) :
    sec.ofEntries (entries ++ others) =
      sec.ofEntries entries >>= fun current => others.foldlM sec.assign current :=
  List.foldlM_append

/-- An entry under an unknown key changes nothing, wherever it stands. -/
theorem ofEntries_insert {key : String} (h : key ∉ sec.settings.map Setting.name)
    (before after : Toml.Entries) (value : Toml.Value) :
    sec.ofEntries (before ++ (key, value) :: after) = sec.ofEntries (before ++ after) := by
  rw [ofEntries_append, ofEntries_append]
  refine congrArg _ (funext fun current => ?_)
  rw [List.foldlM_cons, assign_of_unknown h]
  rfl

/-- What is reported about the beginning of a table is reported about all of it. -/
theorem ofEntries_append_of_error {entries : Toml.Entries} {mismatch : Mismatch}
    (h : sec.ofEntries entries = .error mismatch) (others : Toml.Entries) :
    sec.ofEntries (entries ++ others) = .error mismatch := by
  rw [ofEntries_append, h]
  rfl

end Section

end AssessmentRequest

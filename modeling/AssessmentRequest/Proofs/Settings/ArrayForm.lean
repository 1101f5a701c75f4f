import AssessmentRequest.Proofs.Position
import AssessmentRequest.Proofs.Settings.Document

/-!
# Sections written as arrays

A section can be written as an array, with its settings in a fixed order and without their keys. It
is then read as the table that gives the elements to the keys in this order: where the array ends
early the remaining settings keep their defaults, and what is left over behind the last setting is
not looked at. Only the server section has to reach its last setting, which has no default there.

Main statements: `firstRejected_zip_iff`, `takenInOrder_of_long`, `fallsShort_of_short` and
`ofValue_array_agrees`.
-/

namespace AssessmentRequest.Settings

open Outcome Position
open Toml (Value Entries)

/-- The element at some place is the first that the setting there may not hold, and this is how it
is reported. -/
def FirstMisfit (schema : Schema) (items : List Value) (mismatch : Mismatch) : Prop :=
  ∃ place key shape item, schema.keys[place]? = some (key, shape) ∧ items[place]? = some item ∧
    shape.Rejects item mismatch ∧
    ∀ earlier ∈ (schema.keys.zip items).take place, earlier.1.2.Fits earlier.2

/-- The server settings are what the elements at their places say. -/
structure ServerInOrder (items : List Value) (settings : ServerSettings) : Prop where
  host : Stated (fun value => items[0]? = some value) SaysText "localhost" settings.host
  port : Stated (fun value => items[1]? = some value) SaysPort 33000 settings.port
  connectTimeout : Stated (fun value => items[2]? = some value) SaysTimeout none
    settings.connectTimeout

/-- The request settings are what the elements at their places say. -/
structure RequestInOrder (items : List Value) (settings : RequestSettings) : Prop where
  kind : Stated (fun value => items[0]? = some value) SaysText "quality" settings.kind
  suiteId : Stated (fun value => items[1]? = some value) SaysText "test.suite" settings.suiteId
  nodeId : Stated (fun value => items[2]? = some value) SaysText "urn:node:ARCTIC" settings.nodeId
  testDir : Stated (fun value => items[3]? = some value) SaysText
    "./src/test/resources/test-docs" settings.testDir
  identifiers : Stated (fun value => items[4]? = some value) SaysTexts
    ["doi:10.18739/A2W08WG3R"] settings.identifiers

/-- The logging settings are what the element at their place says. -/
structure LoggingInOrder (items : List Value) (settings : LoggingSettings) : Prop where
  level : Stated (fun value => items[0]? = some value) SaysText "info" settings.level

/-- The array is read as the table that gives its elements to the keys of the section, in order. -/
structure TakenInOrder {σ : Type} (sec : Section σ) (schema : Schema)
    (inOrder : List Value → σ → Prop) (items : List Value) : Prop where
  /-- Settings and mismatches are those of the table. -/
  agrees : sec.ofValue (.array items) = sec.ofValue (.table (schema.names.zip items))
  /-- What is reported is the first element that its setting may not hold. -/
  error_iff : (Value.array items).WellFormed → ∀ mismatch,
    sec.ofValue (.array items) = .error mismatch ↔ FirstMisfit schema items mismatch
  /-- A setting without an element has its default. -/
  inOrder : ∀ settings, sec.ofValue (.array items) = .ok settings → inOrder items settings

/-- The array is not read, because it does not reach a setting that it has to reach, or because of
an element that it has. -/
structure FallsShort {σ : Type} (sec : Section σ) (schema : Schema) (position : Nat)
    (items : List Value) : Prop where
  /-- A mismatch of the table comes first. -/
  mismatch : ∀ mismatch, sec.ofValue (.table (schema.names.zip items)) = .error mismatch →
    sec.ofValue (.array items) = .error mismatch
  /-- It is that of the first element that its setting may not hold. -/
  error_iff : (Value.array items).WellFormed → ∀ mismatch,
    sec.ofValue (.table (schema.names.zip items)) = .error mismatch ↔
      FirstMisfit schema items mismatch
  /-- If there is none, the missing setting is reported, by its position. -/
  short : ∀ settings, sec.ofValue (.table (schema.names.zip items)) = .ok settings →
    sec.ofValue (.array items) =
      .error (.missingElement position schema.title schema.keys.length)

section Order

variable {schema : Schema} {items : List Value}

/-- Under the key of a setting is rejected what the setting may not hold. -/
theorem rejectsKey_iff (hn : schema.names.Nodup) {entry : String × Shape}
    (hm : entry ∈ schema.keys) {value : Value} {mismatch : Mismatch} :
    schema.RejectsKey entry.1 value mismatch ↔ entry.2.Rejects value mismatch := by
  constructor
  · rintro ⟨other, ho, hname, hr⟩
    obtain rfl := List.inj_on_of_nodup_map hn ho hm hname
    exact hr
  · exact fun hr => ⟨entry, hm, rfl, hr⟩

/-- The first entry rejected has a place, and those before it are not rejected. -/
theorem firstRejected_iff_take {rejects : String → Value → Mismatch → Prop} {entries : Entries}
    {mismatch : Mismatch} :
    FirstRejected rejects entries mismatch ↔
      ∃ place key value, entries[place]? = some (key, value) ∧ rejects key value mismatch ∧
        ∀ earlier ∈ entries.take place, ∀ other, ¬ rejects earlier.1 earlier.2 other := by
  have hcut (entry : String × Value) := @exists_cut_iff _ entries entry
    fun part => ∀ earlier ∈ part, ∀ other, ¬ rejects earlier.1 earlier.2 other
  constructor
  · rintro ⟨before, key, value, after, he, hbefore, hr⟩
    obtain ⟨place, hplace, hearlier⟩ := (hcut (key, value)).mp ⟨before, after, he, hbefore⟩
    exact ⟨place, key, value, hplace, hr, hearlier⟩
  · rintro ⟨place, key, value, hplace, hr, hearlier⟩
    obtain ⟨before, after, he, hbefore⟩ := (hcut (key, value)).mpr ⟨place, hplace, hearlier⟩
    exact ⟨before, key, value, after, he, hbefore, hr⟩

/-- The first entry rejected in the table of an array is that of the first element that does not
fit. -/
theorem firstRejected_zip_iff (hn : schema.names.Nodup) {mismatch : Mismatch} :
    FirstRejected schema.RejectsKey (schema.names.zip items) mismatch ↔
      FirstMisfit schema items mismatch := by
  have hearlier (place : Nat) :
      (∀ earlier ∈ (schema.names.zip items).take place, ∀ other,
          ¬ schema.RejectsKey earlier.1 earlier.2 other) ↔
        ∀ earlier ∈ (schema.keys.zip items).take place, earlier.1.2.Fits earlier.2 := by
    rw [Schema.names, List.zip_map_left, ← List.map_take, List.forall_mem_map]
    refine forall₂_congr fun earlier hm => ?_
    have hkey := (List.of_mem_zip (List.mem_of_mem_take hm)).1
    rw [Shape.fits_iff]
    exact forall_congr' fun other => not_congr (rejectsKey_iff hn hkey)
  simp only [firstRejected_iff_take, hearlier, List.getElem?_zip_eq_some]
  constructor
  · rintro ⟨place, key, item, ⟨hname, hitem⟩, hr, hfits⟩
    rw [Schema.names, List.getElem?_map, Option.map_eq_some_iff] at hname
    obtain ⟨⟨_, shape⟩, hkey, rfl⟩ := hname
    have hrejects := (rejectsKey_iff hn (List.mem_of_getElem? hkey)).mp hr
    exact ⟨place, _, shape, item, hkey, hitem, hrejects, hfits⟩
  · rintro ⟨place, key, shape, item, hkey, hitem, hr, hfits⟩
    have hname : schema.names[place]? = some key := by
      rw [Schema.names, List.getElem?_map, hkey]
      rfl
    have hrejects := (rejectsKey_iff hn (List.mem_of_getElem? hkey)).mpr hr
    exact ⟨place, key, item, ⟨hname, hitem⟩, hrejects, hfits⟩

/-- An entry of the table of an array is an element at the place of its key. -/
theorem mem_zip_names_iff (hn : schema.names.Nodup) {key : String} {place : Nat}
    (hkey : schema.names[place]? = some key) {value : Value} :
    (key, value) ∈ schema.names.zip items ↔ items[place]? = some value := by
  simp only [List.mem_iff_getElem?, List.getElem?_zip_eq_some]
  constructor
  · rintro ⟨other, hother, hitem⟩
    have hlt := (List.getElem?_eq_some_iff.mp hother).1
    rwa [(List.getElem?_inj hlt hn).mp (hother.trans hkey.symm)] at hitem
  · exact fun hitem => ⟨place, hkey, hitem⟩

end Order

section Taken

variable {σ : Type} {sec : Section σ} {schema : Schema} {items : List Value}

/-- A setting of an array is what the element at its place says, or its default. -/
theorem stated_of_array {α : Type} {key : String} {place : Nat} {get : σ → α}
    {means : α → Value → Prop} {settings : σ} (hfollows : sec.Follows schema)
    (hset : sec.Sets key get means) (hkey : schema.names[place]? = some key)
    (h : sec.ofValue (.array items) = .ok settings) :
    Stated (fun value => items[place]? = some value) means (get sec.defaults) (get settings) := by
  have hn : schema.names.Nodup := hfollows.reports.distinct
  have hstated := hset.stated hfollows.reports.distinct_names (schema.nodup_zip_names hn items)
    (hfollows.ofEntries_of_ofValue h)
  exact hstated.congr fun value => mem_zip_names_iff hn hkey

/-- What is reported of the table of an array is its first element that does not fit. -/
theorem ofValue_zip_eq_error_iff (hfollows : sec.Follows schema)
    (hv : (Value.array items).WellFormed) {mismatch : Mismatch} :
    sec.ofValue (.table (schema.names.zip items)) = .error mismatch ↔
      FirstMisfit schema items mismatch := by
  rw [← firstRejected_zip_iff hfollows.reports.distinct]
  exact hfollows.ofEntries_eq_error_iff (schema.wellFormed_entries hv)

/-- An array that is long enough is read as its table. -/
theorem ofValue_array_of_long (hfollows : sec.Follows schema)
    (hlong : ∀ position, schema.required = some position → position < items.length) :
    sec.ofValue (.array items) = sec.ofValue (.table (schema.names.zip items)) := by
  show sec.ofItems items = sec.ofEntries (schema.entries (.array items))
  rw [hfollows.ofItems_eq]
  cases sec.ofEntries (schema.entries (.array items)) with
  | error mismatch => rfl
  | ok settings =>
    cases hr : schema.required with
    | none => rfl
    | some position => exact if_neg (Nat.not_le.mpr (hlong position hr))

/-- An array that is long enough is taken in order. -/
theorem takenInOrder_of_long {inOrder : List Value → σ → Prop} (hfollows : sec.Follows schema)
    (hlong : ∀ position, schema.required = some position → position < items.length)
    (hstated : ∀ settings, sec.ofValue (.array items) = .ok settings → inOrder items settings) :
    TakenInOrder sec schema inOrder items := by
  have hagrees := ofValue_array_of_long hfollows hlong
  refine ⟨hagrees, fun hv mismatch => ?_, hstated⟩
  rw [hagrees, ofValue_zip_eq_error_iff hfollows hv]

/-- An array that does not reach what it has to reach falls short. -/
theorem fallsShort_of_short (hfollows : sec.Follows schema) {position : Nat}
    (hrequired : schema.required = some position) (hshort : items.length ≤ position) :
    FallsShort sec schema position items := by
  have hread : sec.ofValue (.array items) =
      (sec.ofValue (.table (schema.names.zip items))).bind fun _ =>
        .error (.missingElement position schema.title schema.keys.length) := by
    show sec.ofItems items = (sec.ofEntries (schema.entries (.array items))).bind _
    rw [hfollows.ofItems_eq, hrequired]
    simp only [hshort, if_true]
  refine ⟨fun mismatch he => ?_, fun hv mismatch => ofValue_zip_eq_error_iff hfollows hv,
    fun settings hok => ?_⟩
  · rw [hread, he]
    rfl
  · rw [hread, hok]
    rfl

/-- The server settings of an array are in order. -/
theorem serverInOrder_of_array {settings : ServerSettings}
    (h : serverSection.ofValue (.array items) = .ok settings) : ServerInOrder items settings where
  host := stated_of_array server_follows server_sets_host rfl h
  port := stated_of_array server_follows server_sets_port rfl h
  connectTimeout := stated_of_array server_follows server_sets_connectTimeout rfl h

/-- The request settings of an array are in order. -/
theorem requestInOrder_of_array {settings : RequestSettings}
    (h : requestSection.ofValue (.array items) = .ok settings) : RequestInOrder items settings where
  kind := stated_of_array request_follows request_sets_kind rfl h
  suiteId := stated_of_array request_follows request_sets_suiteId rfl h
  nodeId := stated_of_array request_follows request_sets_nodeId rfl h
  testDir := stated_of_array request_follows request_sets_testDir rfl h
  identifiers := stated_of_array request_follows request_sets_identifiers rfl h

/-- The logging settings of an array are in order. -/
theorem loggingInOrder_of_array {settings : LoggingSettings}
    (h : loggingSection.ofValue (.array items) = .ok settings) : LoggingInOrder items settings where
  level := stated_of_array logging_follows logging_sets_level rfl h

/-- In a document, too, an array that is long enough is read as its table. -/
theorem ofEntries_array_of_long (hs : schema ∈ Schema.all)
    (hlong : ∀ position, schema.required = some position → position < items.length)
    (before after : Entries) :
    ofEntries (before ++ (schema.name, .array items) :: after) =
      ofEntries (before ++ (schema.name, .table (schema.names.zip items)) :: after) := by
  obtain ⟨_, sec, put, hfollows, hassign⟩ := exists_section hs
  rw [ofEntries, ofEntries, Section.ofEntries_append, Section.ofEntries_append]
  refine congrArg _ (funext fun current => ?_)
  rw [List.foldlM_cons, List.foldlM_cons, hassign, hassign, ofValue_array_of_long hfollows hlong]

/-- A document with a section that is not read is not read. -/
theorem exists_error_of_section {part : Value} {mismatch : Mismatch}
    (h : serverSection.ofValue part = .error mismatch) (before after : Entries) :
    ∃ other, ofEntries (before ++ ("server", part) :: after) = .error other := by
  rw [ofEntries, Section.ofEntries_append]
  cases documentSection.ofEntries before with
  | error other => exact ⟨other, rfl⟩
  | ok current =>
    have hassign : documentSection.assign current ("server", part) = .error mismatch :=
      map_eq_error_iff.mpr h
    refine ⟨mismatch, ?_⟩
    show (("server", part) :: after).foldlM documentSection.assign current = _
    rw [List.foldlM_cons, hassign]
    rfl

end Taken

/-- A section in array form agrees with the table that gives its elements to its keys, in order:
the settings are the same, and so is what is reported, which is the first element that its setting
may not hold. A setting without an element has its default, and elements behind the last setting
are not looked at. An array for the server section has to have three elements. A shorter one is
reported by its first element that does not fit, or else by the position of the setting that has no
default, which is two however short the array is. In a document the same holds of each section,
whatever stands around it. -/
theorem ofValue_array_agrees :
    (∀ items, TakenInOrder requestSection .request RequestInOrder items) ∧
    (∀ items, TakenInOrder loggingSection .logging LoggingInOrder items) ∧
    (∀ items, 3 ≤ items.length → TakenInOrder serverSection .server ServerInOrder items) ∧
    (∀ items, items.length < 3 → FallsShort serverSection .server 2 items) ∧
    (Mismatch.missingElement 2 Schema.server.title Schema.server.keys.length).message =
      "invalid length 2, expected struct ServerConfig with 3 elements" ∧
    (∀ schema ∈ Schema.all, ∀ items,
      (∀ position, schema.required = some position → position < items.length) → ∀ before after,
        ofEntries (before ++ (schema.name, .array items) :: after) =
          ofEntries (before ++ (schema.name, .table (schema.names.zip items)) :: after)) ∧
    ∀ items, items.length < 3 → ∀ before after,
      ∃ mismatch, ofEntries (before ++ ("server", .array items) :: after) = .error mismatch := by
  have hoptional : ∀ {schema : Schema} {items : List Value}, schema.required = none →
      ∀ position, schema.required = some position → position < items.length := by
    intro schema items hnone position hsome
    rw [hnone] at hsome
    contradiction
  have hshort (items : List Value) (h : items.length < 3) :
      FallsShort serverSection .server 2 items :=
    fallsShort_of_short server_follows rfl (Nat.le_of_lt_succ h)
  refine ⟨fun items => ?_, fun items => ?_, fun items hlong => ?_, hshort, by decide +kernel,
    fun schema hs items hlong => ofEntries_array_of_long hs hlong, fun items h => ?_⟩
  · exact takenInOrder_of_long request_follows (hoptional rfl) fun _ => requestInOrder_of_array
  · exact takenInOrder_of_long logging_follows (hoptional rfl) fun _ => loggingInOrder_of_array
  · refine takenInOrder_of_long server_follows ?_ fun _ => serverInOrder_of_array
    rintro position hposition
    obtain rfl := Option.some.inj hposition
    exact hlong
  · cases hread : serverSection.ofValue (.table (Schema.server.names.zip items)) with
    | error mismatch => exact exists_error_of_section ((hshort items h).mismatch mismatch hread)
    | ok settings => exact exists_error_of_section ((hshort items h).short settings hread)

/-- An array for the server section with an element too many is read as its table, one for the
request section that is too short for its second setting leaves the defaults, and of two elements
for the server section a port out of range is reported before the length. In a document the element
too many for the logging section makes no difference either. -/
theorem ofValue_array_agrees_lengths :
    serverSection.ofValue
        (.array [.string "h", .integer 80, .integer 5, .boolean true]) =
      .ok { host := "h", port := 80, connectTimeout := some 5 } ∧
    requestSection.ofValue (.array [.string "graph"]) = .ok { kind := "graph" } ∧
    requestSection.ofValue (.array [.string "graph", .integer 1]) =
      .error (.wrongType (.integer 1) .text) ∧
    serverSection.ofValue (.array [.string "h", .integer 65536]) =
      .error (.outOfRange 65536 .word16) ∧
    serverSection.ofValue (.array [.string "h"]) =
      .error (.missingElement 2 "ServerConfig" 3) ∧
    ofEntries [("logging", .array [.string "warn", .integer 1]), ("extra", .boolean true)] =
      .ok { logging := { level := "warn" } } ∧
    ∃ mismatch, ofEntries [("server", .array [])] = .error mismatch := by
  obtain ⟨hrequest, -, hlong, hshort, -, hdocument, hmissing⟩ := ofValue_array_agrees
  have hv : (Value.array [.string "graph", .integer 1]).WellFormed := by
    refine .array ?_
    simp only [List.forall_mem_cons, List.not_mem_nil, false_imp_iff, implies_true, and_true]
    exact ⟨.string "graph", .integer (by decide) (by decide)⟩
  have hmisfit : FirstMisfit .request [.string "graph", .integer 1]
      (.wrongType (.integer 1) .text) := by
    refine ⟨1, "suite_id", .text, .integer 1, rfl, rfl, .notText (by simp), ?_⟩
    exact List.forall_mem_singleton.mpr (.text "graph")
  refine ⟨(hlong _ (by decide)).agrees.trans rfl, (hrequest _).agrees.trans rfl,
    ((hrequest _).error_iff hv _).mpr hmisfit, (hshort _ (by decide)).mismatch _ rfl,
    (hshort _ (by decide)).short { host := "h" } rfl, ?_, hmissing [] (by decide) [] []⟩
  exact (hdocument .logging Schema.logging_mem [.string "warn", .integer 1] nofun []
    [("extra", .boolean true)]).trans rfl

/-- What is stated about an array that is too short is not its length: of an empty one, too, it is
the position of the setting without a default. -/
theorem missingElement_not_length :
    parse "server = []\n" = .error (.mismatch (.missingElement 2 "ServerConfig" 3)) ∧
      ¬ ∀ items : List Value, items.length < 3 →
        (∃ settings,
          serverSection.ofValue (.table (Schema.server.names.zip items)) = .ok settings) →
        serverSection.ofValue (.array items) =
          .error (.missingElement items.length "ServerConfig" 3) := by
  refine ⟨by decide +kernel, fun h => ?_⟩
  have hempty : serverSection.ofValue (.array []) = .error (.missingElement 2 "ServerConfig" 3) :=
    rfl
  have hlength := h [] (by decide) ⟨{}, rfl⟩
  rw [hempty] at hlength
  exact absurd hlength (by decide)

end AssessmentRequest.Settings

import Mathlib.Data.List.Nodup
import AssessmentRequest.Toml.Table

/-!
# Trees of TOML documents

In the tree of a document every table has each of its keys once, and every integer has 64 bits.
A table that is being built only takes keys that it does not have, by whatever assignments and
headers, so it comes to a table of a document if the values assigned can stand in one.

Main statements: `wellFormed_of_alter` and `wellFormed_assemble`.
-/

namespace AssessmentRequest.Toml

/-- The value can stand in a document. -/
inductive Value.WellFormed : Value → Prop where
  | string (text : String) : WellFormed (.string text)
  /-- An integer has 64 bits. -/
  | integer {value : Int} :
    -(Numeral.halfRange 64 : Int) ≤ value → value < Numeral.halfRange 64 →
      WellFormed (.integer value)
  | float (value : Binary64) : WellFormed (.float value)
  | boolean (value : Bool) : WellFormed (.boolean value)
  | moment (literal : String) : WellFormed (.moment literal)
  | array {items : List Value} : (∀ item ∈ items, item.WellFormed) → WellFormed (.array items)
  /-- A table has each of its keys once. -/
  | table {entries : Entries} :
    (entries.map Prod.fst).Nodup → (∀ entry ∈ entries, entry.2.WellFormed) →
      WellFormed (.table entries)

/-- What the key of a growing table holds can come to a value of a document. -/
inductive Draft.WellFormed : Draft → Prop where
  | value {value : Value} : value.WellFormed → WellFormed (.value value)
  | table {origin : Origin} {entries : Drafts} :
    (entries.map Prod.fst).Nodup → (∀ entry ∈ entries, entry.2.WellFormed) →
      WellFormed (.table origin entries)
  | tables {earlier : List Drafts} {last : Drafts} :
    (∀ entries ∈ last :: earlier, (entries.map Prod.fst).Nodup) →
      (∀ entries ∈ last :: earlier, ∀ entry ∈ entries, entry.2.WellFormed) →
      WellFormed (.tables earlier last)

/-- A growing table can come to a table of a document. -/
structure Drafts.WellFormed (entries : Drafts) : Prop where
  /-- Each key is there once. -/
  distinct : (entries.map Prod.fst).Nodup
  /-- What the keys hold can stand in a document. -/
  drafts : ∀ entry ∈ entries, entry.2.WellFormed

/-- Each entry of a table comes to a value under its key. -/
theorem finishEntries_eq_map (entries : Drafts) :
    finishEntries entries = entries.map fun entry => (entry.1, entry.2.finish) := by
  induction entries with
  | nil => rfl
  | cons entry rest ih => rw [finishEntries, ih, List.map_cons]

/-- Each element of an array of tables comes to a table. -/
theorem finishTables_eq_map (tables : List Drafts) :
    finishTables tables = tables.map fun entries => .table (finishEntries entries) := by
  induction tables with
  | nil => rfl
  | cons entries rest ih => rw [finishTables, ih, List.map_cons]

/-- Finished entries have the keys of the drafts. -/
theorem map_fst_finishEntries (entries : Drafts) :
    (finishEntries entries).map Prod.fst = entries.map Prod.fst := by
  rw [finishEntries_eq_map, List.map_map]
  rfl

/-- Distinct keys whose drafts come to values of a document come to a table of a document. -/
theorem wellFormed_finishEntries {entries : Drafts} (hd : (entries.map Prod.fst).Nodup)
    (he : ∀ entry ∈ entries, entry.2.finish.WellFormed) :
    (Value.table (finishEntries entries)).WellFormed := by
  refine .table (by rwa [map_fst_finishEntries]) ?_
  rw [finishEntries_eq_map]
  simpa only [List.forall_mem_map] using he

/-- A draft comes to a value of a document. -/
theorem Draft.WellFormed.finish {draft : Draft} (h : draft.WellFormed) :
    draft.finish.WellFormed := by
  induction h with
  | value hv => rwa [Draft.finish]
  | table hd he ih =>
    rw [Draft.finish]
    exact wellFormed_finishEntries hd ih
  | tables hd he ih =>
    have hall := fun entries hm => wellFormed_finishEntries (hd entries hm) (ih entries hm)
    obtain ⟨hlast, hearlier⟩ := List.forall_mem_cons.mp hall
    rw [Draft.finish, finishTables_eq_map]
    refine .array ?_
    rw [List.forall_mem_append, List.forall_mem_map, List.forall_mem_singleton]
    exact ⟨hearlier, hlast⟩

namespace Drafts

theorem WellFormed.nil : WellFormed [] := ⟨List.nodup_nil, by simp⟩

/-- What is found under a key is one of the drafts. -/
theorem WellFormed.get? {entries : Drafts} (h : WellFormed entries) {name : String} {draft : Draft}
    (hg : Drafts.get? entries name = some draft) : draft.WellFormed := by
  obtain ⟨entry, hf, rfl⟩ := Option.map_eq_some_iff.mp hg
  exact h.drafts entry (List.mem_of_find?_eq_some hf)

/-- A key that is not found is not there. -/
theorem not_mem_of_get? {entries : Drafts} {name : String}
    (hg : Drafts.get? entries name = none) : name ∉ entries.map Prod.fst := by
  intro hm
  obtain ⟨entry, he, rfl⟩ := List.mem_map.mp hm
  rw [Drafts.get?, Option.map_eq_none_iff, List.find?_eq_none] at hg
  exact hg entry he (decide_eq_true rfl)

/-- A new key may be added. -/
theorem WellFormed.push {entries : Drafts} (h : WellFormed entries) {name : String} {draft : Draft}
    (hn : name ∉ entries.map Prod.fst) (hd : draft.WellFormed) :
    WellFormed (Drafts.push entries name draft) := by
  constructor
  case distinct =>
    rw [Drafts.push, List.map_append, List.map_singleton, List.nodup_append]
    refine ⟨h.distinct, List.nodup_singleton name, fun key hk other ho he => ?_⟩
    rw [he, List.mem_singleton.mp ho] at hk
    exact hn hk
  case drafts =>
    rw [Drafts.push, List.forall_mem_append, List.forall_mem_singleton]
    exact ⟨h.drafts, hd⟩

/-- What a key holds may be replaced. -/
theorem WellFormed.replace {entries : Drafts} (h : WellFormed entries) {name : String}
    {draft : Draft} (hd : draft.WellFormed) : WellFormed (Drafts.replace entries name draft) := by
  constructor
  case distinct =>
    have hkeys : (Drafts.replace entries name draft).map Prod.fst = entries.map Prod.fst := by
      rw [Drafts.replace, List.map_map]
      refine List.map_congr_left fun entry _ => ?_
      rw [Function.comp_apply]
      split
      · next he => exact he.symm
      · rfl
    rw [hkeys]
    exact h.distinct
  case drafts =>
    rw [Drafts.replace, List.forall_mem_map]
    intro entry he
    split
    · exact hd
    · exact h.drafts entry he

/-- A key may be taken out, and is not there then. -/
theorem WellFormed.erase {entries : Drafts} (h : WellFormed entries) (name : String) :
    WellFormed (Drafts.erase entries name) ∧ name ∉ (Drafts.erase entries name).map Prod.fst := by
  have hsub : (Drafts.erase entries name).Sublist entries := List.filter_sublist
  refine ⟨⟨h.distinct.sublist (hsub.map Prod.fst), fun entry he => ?_⟩, fun hm => ?_⟩
  · exact h.drafts entry (hsub.mem he)
  · obtain ⟨entry, he, rfl⟩ := List.mem_map.mp hm
    have hne := (List.mem_filter.mp he).2
    simp at hne

end Drafts

/-- A change that keeps growing tables well-formed may be made to the table at the end of any
way. -/
theorem wellFormed_of_alter {dotted : Bool} {change : Origin → Drafts → Option Drafts}
    (hc : ∀ {origin entries changed}, Drafts.WellFormed entries →
      change origin entries = some changed → Drafts.WellFormed changed)
    {way : List String} {origin : Origin} {entries altered : Drafts}
    (h : Drafts.WellFormed entries) (ha : alter dotted change way origin entries = some altered) :
    Drafts.WellFormed altered := by
  induction way generalizing origin entries altered with
  | nil => exact hc h ha
  | cons name way ih =>
    rw [alter] at ha
    split at ha
    · next hg =>
      obtain ⟨inner, hi, ha⟩ := Option.bind_eq_some_iff.mp ha
      obtain rfl := Option.some.inj ha
      obtain ⟨hd, he⟩ := ih .nil hi
      exact h.push (Drafts.not_mem_of_get? hg) (.table hd he)
    · next hg =>
      split at ha
      · contradiction
      · obtain ⟨changed, hi, ha⟩ := Option.bind_eq_some_iff.mp ha
        obtain rfl := Option.some.inj ha
        cases h.get? hg with
        | table hd he =>
          obtain ⟨hd, he⟩ := ih ⟨hd, he⟩ hi
          exact h.replace (.table hd he)
    · next hg =>
      obtain ⟨changed, hi, ha⟩ := Option.bind_eq_some_iff.mp ha
      obtain rfl := Option.some.inj ha
      cases h.get? hg with
      | tables hd he =>
        obtain ⟨hlast, hearlier⟩ := List.forall_mem_cons.mp hd
        obtain ⟨hlastDrafts, hearlierDrafts⟩ := List.forall_mem_cons.mp he
        obtain ⟨hd, he⟩ := ih ⟨hlast, hlastDrafts⟩ hi
        exact h.replace (.tables (List.forall_mem_cons.mpr ⟨hd, hearlier⟩)
          (List.forall_mem_cons.mpr ⟨he, hearlierDrafts⟩))
    · contradiction

/-- A new key is one that is not there. -/
theorem wellFormed_of_insertNew {name : String} {draft : Draft} {entries inserted : Drafts}
    (h : Drafts.WellFormed entries) (hd : draft.WellFormed)
    (hi : insertNew name draft entries = some inserted) : Drafts.WellFormed inserted := by
  unfold insertNew at hi
  split at hi
  · next hg =>
    obtain rfl := Option.some.inj hi
    exact h.push (Drafts.not_mem_of_get? hg) hd
  · contradiction

/-- Giving a value to a path keeps tables well-formed. -/
theorem wellFormed_of_assign {entries assigned : Drafts} {path : Path} {value : Value}
    (h : Drafts.WellFormed entries) (hv : value.WellFormed)
    (ha : assign entries path value = some assigned) : Drafts.WellFormed assigned := by
  unfold assign at ha
  split at ha
  · exact wellFormed_of_insertNew h (.value hv) ha
  · refine wellFormed_of_alter (fun hentries hchange => ?_) h ha
    split at hchange
    · exact wellFormed_of_insertNew hentries (.value hv) hchange
    · contradiction

/-- Assignments keep tables well-formed. -/
theorem wellFormed_of_assignAll {assignments : List (Path × Value)} {entries assigned : Drafts}
    (h : Drafts.WellFormed entries)
    (hv : ∀ assignment ∈ assignments, assignment.2.WellFormed)
    (ha : assignAll entries assignments = some assigned) : Drafts.WellFormed assigned := by
  induction assignments generalizing entries with
  | nil =>
    obtain rfl := Option.some.inj ha
    exact h
  | cons assignment rest ih =>
    obtain ⟨hfirst, hrest⟩ := List.forall_mem_cons.mp hv
    rw [assignAll, List.foldlM_cons] at ha
    obtain ⟨next, hn, ha⟩ := Option.bind_eq_some_iff.mp ha
    exact ih (wellFormed_of_assign h hfirst hn) hrest ha

/-- The values under a header can stand in a document. -/
def Block.WellFormed (block : Block) : Prop :=
  ∀ assignment ∈ block.assignments, assignment.2.WellFormed

/-- Opening a table keeps its parent well-formed. -/
theorem wellFormed_of_openTable {name : String} {assignments : List (Path × Value)}
    {parent opened : Drafts} (h : Drafts.WellFormed parent)
    (hv : ∀ assignment ∈ assignments, assignment.2.WellFormed)
    (ho : openTable name assignments parent = some opened) : Drafts.WellFormed opened := by
  unfold openTable at ho
  split at ho
  · next hg =>
    obtain ⟨inner, hi, ho⟩ := Option.bind_eq_some_iff.mp ho
    obtain rfl := Option.some.inj ho
    obtain ⟨hd, he⟩ := wellFormed_of_assignAll .nil hv hi
    exact h.push (Drafts.not_mem_of_get? hg) (.table hd he)
  · next hg =>
    obtain ⟨grown, hi, ho⟩ := Option.bind_eq_some_iff.mp ho
    obtain rfl := Option.some.inj ho
    cases h.get? hg with
    | table hd he =>
      obtain ⟨hd, he⟩ := wellFormed_of_assignAll ⟨hd, he⟩ hv hi
      obtain ⟨hparent, hn⟩ := h.erase name
      exact hparent.push hn (.table hd he)
  · contradiction

/-- Adding an element to an array of tables keeps its parent well-formed. -/
theorem wellFormed_of_openElement {name : String} {assignments : List (Path × Value)}
    {parent opened : Drafts} (h : Drafts.WellFormed parent)
    (hv : ∀ assignment ∈ assignments, assignment.2.WellFormed)
    (ho : openElement name assignments parent = some opened) : Drafts.WellFormed opened := by
  obtain ⟨element, hi, ho⟩ := Option.bind_eq_some_iff.mp ho
  obtain ⟨hd, he⟩ := wellFormed_of_assignAll .nil hv hi
  split at ho
  · next hg =>
    obtain rfl := Option.some.inj ho
    exact h.push (Drafts.not_mem_of_get? hg) (.tables (by simpa using hd) (by simpa using he))
  · next earlier last hg =>
    obtain rfl := Option.some.inj ho
    cases h.get? hg with
    | tables hothers hdrafts =>
      refine h.replace (.tables ?_ ?_)
      · simp only [List.forall_mem_cons, List.forall_mem_append] at hothers ⊢
        exact ⟨hd, hothers.2, hothers.1, by simp⟩
      · simp only [List.forall_mem_cons, List.forall_mem_append] at hdrafts ⊢
        exact ⟨he, hdrafts.2, hdrafts.1, by simp⟩
  · contradiction

/-- A header with its assignments keeps the document well-formed. -/
theorem wellFormed_of_addBlock {document added : Drafts} {block : Block}
    (h : Drafts.WellFormed document) (hb : block.WellFormed)
    (ha : addBlock document block = some added) : Drafts.WellFormed added := by
  refine wellFormed_of_alter (fun hparent hchange => ?_) h ha
  split at hchange
  · exact wellFormed_of_openElement hparent hb hchange
  · exact wellFormed_of_openTable hparent hb hchange

/-- Headers in turn keep the document well-formed. -/
theorem wellFormed_of_foldlM_addBlock {blocks : List Block} {document added : Drafts}
    (h : Drafts.WellFormed document) (hb : ∀ block ∈ blocks, block.WellFormed)
    (ha : blocks.foldlM addBlock document = some added) : Drafts.WellFormed added := by
  induction blocks generalizing document with
  | nil =>
    obtain rfl := Option.some.inj ha
    exact h
  | cons block rest ih =>
    obtain ⟨hfirst, hrest⟩ := List.forall_mem_cons.mp hb
    rw [List.foldlM_cons] at ha
    obtain ⟨next, hn, ha⟩ := Option.bind_eq_some_iff.mp ha
    exact ih (wellFormed_of_addBlock h hfirst hn) hrest ha

/-- Assignments and headers whose values can stand in a document make a document. -/
theorem wellFormed_assemble {assignments : List (Path × Value)} {blocks : List Block}
    {entries : Entries} (hv : ∀ assignment ∈ assignments, assignment.2.WellFormed)
    (hb : ∀ block ∈ blocks, block.WellFormed) (ha : assemble assignments blocks = some entries) :
    (Value.table entries).WellFormed := by
  obtain ⟨top, ht, ha⟩ := Option.bind_eq_some_iff.mp ha
  obtain ⟨document, hd, ha⟩ := Option.bind_eq_some_iff.mp ha
  obtain rfl := Option.some.inj ha
  have htop := wellFormed_of_assignAll .nil hv ht
  obtain ⟨hdistinct, hdrafts⟩ := wellFormed_of_foldlM_addBlock htop hb hd
  exact wellFormed_finishEntries hdistinct fun entry he => (hdrafts entry he).finish

end AssessmentRequest.Toml

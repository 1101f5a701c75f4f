import AssessmentRequest.Toml.Document
import AssessmentRequest.Proofs.Toml.WellFormed

/-!
# Trees read from texts

Whatever text is read as a document, its tree is well-formed: integers are checked where they are
read, values in arrays and inline tables are read as any others, and the tables are built from
such values.

Main statements: `yields_value` and `wellFormed_of_parse`.
-/

namespace AssessmentRequest.Toml

/-- Whatever the reader takes has the property. -/
def Yields {α : Type} (reader : Reader α) (property : α → Prop) : Prop :=
  ∀ text value rest, reader text = some (value, rest) → property value

/-- A reader with its results changed yields what the change makes of them. -/
theorem Yields.map {α β : Type} {reader : Reader α} {p : α → Prop} {q : β → Prop} {change : α → β}
    (h : Yields reader p) (hc : ∀ value, p value → q (change value)) :
    Yields (fun text => (reader text).map fun (value, rest) => (change value, rest)) q := by
  intro text changed rest he
  obtain ⟨⟨value, others⟩, hr, he⟩ := Option.map_eq_some_iff.mp he
  obtain ⟨rfl, -⟩ := Prod.mk.inj he
  exact hc value (h text value others hr)

/-- An integer is checked for its size. -/
theorem wellFormed_of_bounded {number value : Int} (h : bounded number = some value) :
    (Value.integer value).WellFormed := by
  unfold bounded at h
  split at h
  · next hb =>
    obtain rfl := Option.some.inj h
    exact .integer hb.1 hb.2
  · contradiction

/-- An integer read with its base is checked. -/
theorem yields_based (base : Nat) (isDigit : Char → Bool) :
    Yields (based base isDigit) fun value => (Value.integer value).WellFormed := by
  intro text value rest h
  obtain ⟨⟨digits, others⟩, -, h⟩ := Option.bind_eq_some_iff.mp h
  obtain ⟨checked, hb, h⟩ := Option.bind_eq_some_iff.mp h
  obtain ⟨rfl, -⟩ := Prod.mk.inj (Option.some.inj h)
  exact wellFormed_of_bounded hb

/-- An integer that is read has 64 bits. -/
theorem yields_integer : Yields integer fun value => (Value.integer value).WellFormed := by
  intro text value rest h
  unfold integer at h
  split at h
  · exact yields_based _ _ _ _ _ h
  · exact yields_based _ _ _ _ _ h
  · exact yields_based _ _ _ _ _ h
  · obtain ⟨⟨digits, others⟩, -, h⟩ := Option.bind_eq_some_iff.mp h
    obtain ⟨checked, hb, h⟩ := Option.bind_eq_some_iff.mp h
    obtain ⟨rfl, -⟩ := Prod.mk.inj (Option.some.inj h)
    exact wellFormed_of_bounded hb

/-- A value without other values in it can stand in a document. -/
theorem yields_scalar : Yields scalar Value.WellFormed := by
  intro text value rest h
  have hany : ∀ {α : Type} (reader : Reader α), Yields reader fun _ => True :=
    fun _ _ _ _ _ => trivial
  unfold scalar at h
  split at h
  · contradiction
  · split at h
    · exact (hany string).map (fun text _ => .string text) _ _ _ h
    · split at h
      · obtain ⟨others, -, he⟩ := Option.map_eq_some_iff.mp h
        obtain ⟨rfl, -⟩ := Prod.mk.inj he
        exact .boolean true
      · split at h
        · obtain ⟨others, -, he⟩ := Option.map_eq_some_iff.mp h
          obtain ⟨rfl, -⟩ := Prod.mk.inj he
          exact .boolean false
        · simp only [Option.orElse_eq_orElse, Option.orElse_eq_or, Option.or_eq_some_iff] at h
          rcases h with h | ⟨-, h | ⟨-, h⟩⟩
          · exact (hany moment).map (fun literal _ => .moment literal) _ _ _ h
          · exact (hany float).map (fun value _ => .float value) _ _ _ h
          · exact yields_integer.map (fun _ hv => hv) _ _ _ h

section Nested

variable {element : Reader Value} (h : Yields element Value.WellFormed)

include h

/-- Elements of an array can stand in a document if each of them can. -/
theorem yields_elements (fuel : Nat) :
    Yields (elements element fuel) fun values => ∀ value ∈ values, value.WellFormed := by
  induction fuel with
  | zero =>
    intro text values rest he
    contradiction
  | succ fuel ih =>
    intro text values rest he
    rw [elements] at he
    split at he
    · obtain ⟨rfl, -⟩ := Prod.mk.inj (Option.some.inj he)
      simp
    · obtain ⟨⟨value, others⟩, hv, he⟩ := Option.bind_eq_some_iff.mp he
      have hvalue := h _ _ _ hv
      dsimp only at he
      split at he
      · obtain ⟨rfl, -⟩ := Prod.mk.inj (Option.some.inj he)
        simpa using hvalue
      · obtain ⟨⟨more, others⟩, hm, he⟩ := Option.bind_eq_some_iff.mp he
        obtain ⟨rfl, -⟩ := Prod.mk.inj (Option.some.inj he)
        exact List.forall_mem_cons.mpr ⟨hvalue, ih _ _ _ hm⟩
      · contradiction

/-- The value of an assignment can stand in a document. -/
theorem yields_assignment : Yields (assignment element) fun assigned => assigned.2.WellFormed := by
  intro text assigned rest he
  obtain ⟨⟨path, others⟩, -, he⟩ := Option.bind_eq_some_iff.mp he
  obtain ⟨others, -, he⟩ := Option.bind_eq_some_iff.mp he
  obtain ⟨⟨value, others⟩, hv, he⟩ := Option.bind_eq_some_iff.mp he
  obtain ⟨rfl, -⟩ := Prod.mk.inj (Option.some.inj he)
  exact h _ _ _ hv

/-- The values of an inline table can stand in a document. -/
theorem yields_fields (fuel : Nat) :
    Yields (fields element fuel) fun assignments =>
      ∀ assigned ∈ assignments, assigned.2.WellFormed := by
  induction fuel with
  | zero =>
    intro text assignments rest he
    contradiction
  | succ fuel ih =>
    intro text assignments rest he
    obtain ⟨⟨first, others⟩, hf, he⟩ := Option.bind_eq_some_iff.mp he
    have hfirst := yields_assignment h _ _ _ hf
    dsimp only at he
    split at he
    · obtain ⟨rfl, -⟩ := Prod.mk.inj (Option.some.inj he)
      simpa using hfirst
    · obtain ⟨⟨more, others⟩, hm, he⟩ := Option.bind_eq_some_iff.mp he
      obtain ⟨rfl, -⟩ := Prod.mk.inj (Option.some.inj he)
      exact List.forall_mem_cons.mpr ⟨hfirst, ih _ _ _ hm⟩
    · contradiction

/-- An inline table has each of its keys once. -/
theorem yields_inlineTable : Yields (inlineTable element) Value.WellFormed := by
  intro text value rest he
  unfold inlineTable at he
  split at he
  · obtain ⟨rfl, -⟩ := Prod.mk.inj (Option.some.inj he)
    exact .table List.nodup_nil (by simp)
  · obtain ⟨⟨assignments, others⟩, hf, he⟩ := Option.bind_eq_some_iff.mp he
    obtain ⟨entries, ha, he⟩ := Option.bind_eq_some_iff.mp he
    obtain ⟨rfl, -⟩ := Prod.mk.inj (Option.some.inj he)
    obtain ⟨hdistinct, hdrafts⟩ := wellFormed_of_assignAll .nil (yields_fields h _ _ _ _ hf) ha
    exact wellFormed_finishEntries hdistinct fun entry hm => (hdrafts entry hm).finish

end Nested

/-- A value of any depth can stand in a document. -/
theorem yields_value (depth : Nat) : Yields (value depth) Value.WellFormed := by
  induction depth with
  | zero => exact yields_scalar
  | succ depth ih =>
    intro text read rest h
    unfold value at h
    split at h
    · exact (yields_elements ih _).map (fun _ hitems => .array hitems) _ _ _ h
    · exact yields_inlineTable ih _ _ _ h
    · exact yields_scalar _ _ _ h

/-- The value that a line assigns, if it assigns one, can stand in a document. -/
def Line.WellFormed : Line → Prop
  | .assignment _ value => value.WellFormed
  | .header _ _ => True

/-- A line that is read is a header or assigns a value of a document. -/
theorem yields_line : Yields line Line.WellFormed := by
  intro text read rest h
  unfold line at h
  split at h
  · unfold header at h
    split at h
    · obtain ⟨⟨path, others⟩, -, h⟩ := Option.bind_eq_some_iff.mp h
      obtain ⟨others, -, h⟩ := Option.bind_eq_some_iff.mp h
      obtain ⟨rfl, -⟩ := Prod.mk.inj (Option.some.inj h)
      trivial
    · obtain ⟨⟨path, others⟩, -, h⟩ := Option.bind_eq_some_iff.mp h
      obtain ⟨others, -, h⟩ := Option.bind_eq_some_iff.mp h
      obtain ⟨rfl, -⟩ := Prod.mk.inj (Option.some.inj h)
      trivial
    · contradiction
  · obtain ⟨⟨⟨path, value⟩, others⟩, hv, h⟩ := Option.map_eq_some_iff.mp h
    obtain ⟨rfl, -⟩ := Prod.mk.inj h
    exact yields_assignment (yields_value depthLimit) _ _ _ hv

/-- All the lines that are read assign values of a document. -/
theorem wellFormed_of_lines {fuel : Nat} {text : List Char} {read : List Line}
    (h : lines fuel text = some read) : ∀ line ∈ read, line.WellFormed := by
  induction fuel generalizing text read with
  | zero => contradiction
  | succ fuel ih =>
    rw [lines] at h
    split at h
    · obtain rfl := Option.some.inj h
      simp
    · obtain ⟨⟨first, others⟩, hf, h⟩ := Option.bind_eq_some_iff.mp h
      obtain ⟨others, -, h⟩ := Option.bind_eq_some_iff.mp h
      obtain ⟨more, hm, h⟩ := Option.bind_eq_some_iff.mp h
      obtain rfl := Option.some.inj h
      exact List.forall_mem_cons.mpr ⟨yields_line _ _ _ hf, ih hm⟩

/-- Grouping lines by their headers keeps the values. -/
theorem wellFormed_blocks {read : List Line} (h : ∀ line ∈ read, line.WellFormed) :
    (∀ assigned ∈ (blocks read).1, assigned.2.WellFormed) ∧
      ∀ block ∈ (blocks read).2, block.WellFormed := by
  induction read with
  | nil => simp [blocks]
  | cons first rest ih =>
    obtain ⟨hfirst, hrest⟩ := List.forall_mem_cons.mp h
    obtain ⟨hassigned, hblocks⟩ := ih hrest
    cases first with
    | assignment path value =>
      exact ⟨List.forall_mem_cons.mpr ⟨hfirst, hassigned⟩, hblocks⟩
    | header element path =>
      exact ⟨by simp [blocks], List.forall_mem_cons.mpr ⟨hassigned, hblocks⟩⟩

/-- The tree of a document has each key of a table once, and 64 bits for each integer. -/
theorem wellFormed_of_parse {document : String} {entries : Entries}
    (h : parse document = some entries) : (Value.table entries).WellFormed := by
  obtain ⟨read, hl, h⟩ := Option.bind_eq_some_iff.mp h
  obtain ⟨hassigned, hblocks⟩ := wellFormed_blocks (wellFormed_of_lines hl)
  exact wellFormed_assemble hassigned hblocks h

end AssessmentRequest.Toml

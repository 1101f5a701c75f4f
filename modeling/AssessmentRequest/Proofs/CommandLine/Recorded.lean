import Mathlib.Data.List.Induction
import AssessmentRequest.Proofs.CommandLine.Spelling
import AssessmentRequest.Proofs.Matching
import AssessmentRequest.Proofs.Text.Decimal

/-!
# What occurrences amount to

The arguments that a list of occurrences gives, said field by field: an option that is not
the list of identifiers is given once at most, and its value is what the field holds. The
reader takes one occurrence after the other; it gets to the end exactly with these arguments.

Main statements: `foldlM_add_eq_ok_iff` and `Recorded.unique`.
-/

namespace AssessmentRequest

open CommandLine
open Matching
open Outcome (bind_eq_ok_iff)

namespace CommandLine

/-- The bytes are those of the text. -/
def IsText (value : Bytes) (text : String) : Prop := value = Utf8.encode text

/-- The bytes are the path, which is not empty. -/
def IsPath (value path : Bytes) : Prop := value = path ∧ value ≠ []

/-- The bytes are a numeral of the port. -/
def DenotesPort (value : Bytes) (port : UInt16) : Prop :=
  ∃ text, IsText value text ∧ Numeral.DenotesInt text.toList port.toNat

/-- The bytes are a numeral of the number of milliseconds. -/
def DenotesMilliseconds (value : Bytes) (number : UInt64) : Prop :=
  ∃ text, IsText value text ∧ Numeral.Denotes text.toList number.toNat

/-- The values given to an option, in order. -/
def valuesOf (option : Named) : List Occurrence → List Bytes :=
  List.filterMap fun occurrence =>
    match occurrence with
    | .valued given value => if given = option then some value else none
    | _ => none

/-- The ports given, in order. -/
def portsOf : List Occurrence → List Bytes :=
  List.filterMap fun occurrence =>
    match occurrence with
    | .port value => some value
    | _ => none

section Concat

variable {option : Named} {value : Bytes} {occurrences : List Occurrence}

@[simp]
theorem valuesOf_concat_self :
    valuesOf option (occurrences ++ [.valued option value]) =
      valuesOf option occurrences ++ [value] := by
  simp [valuesOf]

theorem valuesOf_concat_of_ne {other : Named} (h : other ≠ option) :
    valuesOf other (occurrences ++ [.valued option value]) = valuesOf other occurrences := by
  simp [valuesOf, h.symm]

@[simp]
theorem valuesOf_concat_dryRun :
    valuesOf option (occurrences ++ [.dryRun]) = valuesOf option occurrences := by
  simp [valuesOf]

@[simp]
theorem valuesOf_concat_port :
    valuesOf option (occurrences ++ [.port value]) = valuesOf option occurrences := by
  simp [valuesOf]

@[simp]
theorem portsOf_concat_valued :
    portsOf (occurrences ++ [.valued option value]) = portsOf occurrences := by
  simp [portsOf]

@[simp]
theorem portsOf_concat_dryRun : portsOf (occurrences ++ [.dryRun]) = portsOf occurrences := by
  simp [portsOf]

@[simp]
theorem portsOf_concat_port :
    portsOf (occurrences ++ [.port value]) = portsOf occurrences ++ [value] := by
  simp [portsOf]

end Concat

end CommandLine

namespace Arguments

/-- The arguments hold exactly these values of an option. -/
def Holds (arguments : Arguments) (option : Named) (values : List Bytes) : Prop :=
  match option with
  | .config => List.Forall₂ IsPath values arguments.config.toList
  | .host => List.Forall₂ IsText values arguments.host.toList
  | .kind => List.Forall₂ IsText values arguments.kind.toList
  | .identifier => List.Forall₂ IsText values arguments.identifiers
  | .testDir => List.Forall₂ IsText values arguments.testDir.toList
  | .suiteId => List.Forall₂ IsText values arguments.suiteId.toList
  | .nodeId => List.Forall₂ IsText values arguments.nodeId.toList
  | .connectTimeout => List.Forall₂ DenotesMilliseconds values arguments.connectTimeout.toList
  | .logLevel => List.Forall₂ IsText values arguments.logLevel.toList

/-- The arguments before an option was given. -/
def without (arguments : Arguments) : Named → Arguments
  | .config => { arguments with config := none }
  | .host => { arguments with host := none }
  | .kind => { arguments with kind := none }
  | .identifier => { arguments with identifiers := arguments.identifiers.dropLast }
  | .testDir => { arguments with testDir := none }
  | .suiteId => { arguments with suiteId := none }
  | .nodeId => { arguments with nodeId := none }
  | .connectTimeout => { arguments with connectTimeout := none }
  | .logLevel => { arguments with logLevel := none }

/-- Takes one occurrence. -/
def add (arguments : Arguments) : Occurrence → Except Stop Arguments
  | .valued option value => arguments.give option value
  | .dryRun => arguments.raise .dryRun
  | .port value =>
    if arguments.port.isSome then .error (.unknownArgument (Utf8.decodeLossy value))
    else arguments.givePort value

end Arguments

/-- The arguments are exactly what the occurrences give. -/
structure Recorded (occurrences : List Occurrence) (arguments : Arguments) : Prop where
  /-- Every value of an option, and nothing else, is held. -/
  values : ∀ option, arguments.Holds option (valuesOf option occurrences)
  /-- The flag occurs once at most, and is set if it occurs. -/
  dryRun : occurrences.count .dryRun = if arguments.dryRun then 1 else 0
  /-- The port occurs once at most, and is held if it occurs. -/
  port : List.Forall₂ DenotesPort (portsOf occurrences) arguments.port.toList

namespace Arguments

/-- A value is read as a text if it is the encoding of one. -/
theorem text_eq_ok_iff {value : Bytes} {shown : String} :
    text value = .ok shown ↔ IsText value shown := by
  unfold text IsText
  rw [← Utf8.decode?_eq_some_iff]
  cases Utf8.decode? value <;> simp

/-- A port is read from its numerals. -/
theorem readPort_eq_ok_iff {value : Bytes} {port : UInt16} :
    readPort value = .ok port ↔ DenotesPort value port := by
  have hport := UInt16.toNat_lt port
  simp only [readPort, bind_eq_ok_iff, text_eq_ok_iff, DenotesPort]
  refine exists_congr fun shown => and_congr_right fun _ => ?_
  constructor
  · intro h
    split at h
    · cases h
    · next number hn =>
      split at h
      · next hr =>
        obtain ⟨hd, -⟩ := Numeral.readInt_eq_ok_iff.mp hn
        have hv : ((UInt16.ofNat number.toNat).toNat : Int) = number := by
          have hlt : number.toNat < 65536 := by
            have := hr.2
            simp only [UInt16.size] at this
            omega
          rw [UInt16.toNat_ofNat', Nat.mod_eq_of_lt hlt]
          omega
        cases h
        rwa [hv]
      · cases h
  · intro hd
    have hhalf : Numeral.halfRange 64 = 9223372036854775808 := by decide
    have hread : Numeral.readInt 64 shown.toList = .ok port.toNat :=
      Numeral.readInt_eq_ok_iff.mpr ⟨hd, by omega, by omega⟩
    rw [hread]
    have hr : 0 ≤ (port.toNat : Int) ∧ (port.toNat : Int) < UInt16.size := by
      simp only [UInt16.size]
      omega
    dsimp only
    rw [if_pos hr, Int.toNat_natCast, UInt16.ofNat_toNat]

/-- A number of milliseconds is read from its numerals. -/
theorem readMilliseconds_eq_ok_iff {value : Bytes} {number : UInt64} :
    readMilliseconds value = .ok number ↔ DenotesMilliseconds value number := by
  have hnumber := UInt64.toNat_lt number
  simp only [readMilliseconds, bind_eq_ok_iff, text_eq_ok_iff, DenotesMilliseconds]
  refine exists_congr fun shown => and_congr_right fun _ => ?_
  constructor
  · intro h
    split at h
    · cases h
    · next natural hn =>
      obtain ⟨hd, hle⟩ := Numeral.readNat_eq_ok_iff.mp hn
      cases h
      rwa [UInt64.toNat_ofNat', Nat.mod_eq_of_lt (by simp only [UInt64.size] at hle; omega)]
  · intro hd
    have hread : Numeral.readNat (UInt64.size - 1) shown.toList = .ok number.toNat :=
      Numeral.readNat_eq_ok_iff.mpr ⟨hd, by simp only [UInt64.size]; omega⟩
    rw [hread]
    dsimp only
    rw [UInt64.ofNat_toNat]

variable {before after : Arguments} {option : Named} {value : Bytes} {values : List Bytes}

/-- Giving an option is undone by taking its last value away. -/
theorem without_of_give (h : before.give option value = .ok after) :
    after.without option = before := by
  cases before
  unfold give at h
  split at h
  · cases h
  · next hn =>
    cases option <;> simp only [set, has, bind_eq_ok_iff] at h hn
    case config =>
      split at h <;> cases h
      simp_all [without]
    all_goals
      obtain ⟨read, -, hr⟩ := h
      cases hr
      simp_all [without]

/-- The last value that is held is the one that was given last. -/
theorem holds_concat_iff :
    after.Holds option (values ++ [value]) ↔
      (after.without option).give option value = .ok after ∧
        (after.without option).Holds option values := by
  cases after
  cases option
  case config =>
    by_cases hv : value = [] <;>
      simp [Holds, forall₂_concat_toList_iff, give, has, without, set, IsPath, hv]
  case identifier =>
    simp [Holds, forall₂_concat_iff, give, has, without, set, bind_eq_ok_iff, text_eq_ok_iff,
      pure, Except.pure]
  all_goals
    simp [Holds, forall₂_concat_toList_iff, give, has, without, set, bind_eq_ok_iff,
      text_eq_ok_iff, readMilliseconds_eq_ok_iff, pure, Except.pure]

/-- Taking a value of one option away leaves the others. -/
theorem holds_without_iff {other : Named} (h : other ≠ option) :
    (after.without option).Holds other values ↔ after.Holds other values := by
  cases option <;> cases other <;> first | exact absurd rfl h | exact Iff.rfl

@[simp]
theorem port_without : (after.without option).port = after.port := by
  cases option <;> rfl

@[simp]
theorem dryRun_without : (after.without option).dryRun = after.dryRun := by
  cases option <;> rfl

@[simp]
theorem holds_setDryRun_iff {dryRun : Bool} :
    { after with dryRun }.Holds option values ↔ after.Holds option values := by
  cases option <;> rfl

@[simp]
theorem holds_setPort_iff {port : Option UInt16} :
    { after with port }.Holds option values ↔ after.Holds option values := by
  cases option <;> rfl

end Arguments

namespace Recorded

variable {occurrences : List Occurrence} {arguments : Arguments}

/-- A value of an option is recorded as its last one. -/
theorem concat_valued_iff {option : Named} {value : Bytes} :
    Recorded (occurrences ++ [.valued option value]) arguments ↔
      (arguments.without option).give option value = .ok arguments ∧
        Recorded occurrences (arguments.without option) := by
  constructor
  · intro h
    obtain ⟨hgive, hheld⟩ :=
      Arguments.holds_concat_iff.mp (valuesOf_concat_self ▸ h.values option)
    refine ⟨hgive, ⟨fun other => ?_, by simpa using h.dryRun, by simpa using h.port⟩⟩
    by_cases ho : other = option
    · rwa [ho]
    · rw [Arguments.holds_without_iff ho, ← valuesOf_concat_of_ne ho]
      exact h.values other
  · intro h
    obtain ⟨hgive, hbefore⟩ := h
    refine ⟨fun other => ?_, by simpa using hbefore.dryRun, by simpa using hbefore.port⟩
    by_cases ho : other = option
    · rw [ho, valuesOf_concat_self]
      exact Arguments.holds_concat_iff.mpr ⟨hgive, hbefore.values option⟩
    · rw [valuesOf_concat_of_ne ho, ← Arguments.holds_without_iff ho]
      exact hbefore.values other

/-- The flag is recorded once. -/
theorem concat_dryRun_iff :
    Recorded (occurrences ++ [.dryRun]) arguments ↔
      arguments.dryRun = true ∧ Recorded occurrences { arguments with dryRun := false } := by
  constructor
  · intro h
    have hcount := h.dryRun
    rw [List.count_append, List.count_singleton_self] at hcount
    have hraised : arguments.dryRun = true := by
      by_contra hn
      rw [if_neg hn] at hcount
      omega
    rw [if_pos hraised] at hcount
    exact ⟨hraised, ⟨fun option => by simpa using h.values option,
      by simpa using hcount, by simpa using h.port⟩⟩
  · intro h
    obtain ⟨hraised, hbefore⟩ := h
    refine ⟨fun option => by simpa using hbefore.values option, ?_, by simpa using hbefore.port⟩
    rw [List.count_append, List.count_singleton_self, hbefore.dryRun, hraised]
    rfl

/-- The port is recorded once. -/
theorem concat_port_iff {value : Bytes} :
    Recorded (occurrences ++ [.port value]) arguments ↔
      (∃ port, DenotesPort value port ∧ some port = arguments.port) ∧
        Recorded occurrences { arguments with port := none } := by
  constructor
  · intro h
    have hports := h.port
    rw [portsOf_concat_port, forall₂_concat_toList_iff] at hports
    obtain ⟨hport, hnil⟩ := hports
    exact ⟨hport, ⟨fun option => by simpa using h.values option, by simpa using h.dryRun,
      by simp [hnil]⟩⟩
  · intro h
    obtain ⟨hport, hbefore⟩ := h
    refine ⟨fun option => by simpa using hbefore.values option, by simpa using hbefore.dryRun, ?_⟩
    rw [portsOf_concat_port, forall₂_concat_toList_iff]
    exact ⟨hport, by simpa using hbefore.port⟩

/-- The occurrence that was recorded last is the one that was taken last. -/
theorem concat_iff {occurrence : Occurrence} :
    Recorded (occurrences ++ [occurrence]) arguments ↔
      ∃ before, Recorded occurrences before ∧ before.add occurrence = .ok arguments := by
  cases occurrence with
  | valued option value =>
    rw [concat_valued_iff]
    constructor
    · rintro ⟨hgive, hbefore⟩
      exact ⟨_, hbefore, hgive⟩
    · rintro ⟨before, hbefore, hgive⟩
      obtain rfl := Arguments.without_of_give hgive
      exact ⟨hgive, hbefore⟩
  | dryRun =>
    rw [concat_dryRun_iff]
    constructor
    · rintro ⟨hraised, hbefore⟩
      refine ⟨_, hbefore, ?_⟩
      simp [Arguments.add, Arguments.raise, ← hraised]
    · rintro ⟨before, hbefore, hraise⟩
      simp only [Arguments.add, Arguments.raise] at hraise
      split at hraise
      · cases hraise
      · next hn =>
        cases before
        cases hraise
        simp only [Bool.not_eq_true] at hn
        exact ⟨rfl, hn ▸ hbefore⟩
  | port value =>
    rw [concat_port_iff]
    simp only [Arguments.add, Arguments.givePort]
    constructor
    · rintro ⟨⟨port, hport, hheld⟩, hbefore⟩
      refine ⟨_, hbefore, ?_⟩
      simp [Arguments.readPort_eq_ok_iff.mpr hport, hheld]
    · rintro ⟨before, hbefore, hgive⟩
      split at hgive
      · cases hgive
      · next hn =>
        obtain ⟨port, hport, he⟩ := bind_eq_ok_iff.mp hgive
        cases before
        cases he
        simp only [Option.not_isSome_iff_eq_none] at hn
        exact ⟨⟨port, Arguments.readPort_eq_ok_iff.mp hport, rfl⟩, hn ▸ hbefore⟩

end Recorded

/-- Only the empty arguments come from no occurrence. -/
theorem recorded_nil_iff {arguments : Arguments} : Recorded [] arguments ↔ arguments = {} := by
  constructor
  · intro h
    have hheld : ∀ option ∈ Named.all, arguments.Holds option [] := fun option _ => h.values option
    have hraised := h.dryRun
    have hport := h.port
    cases arguments
    simp_all [Named.all, Arguments.Holds, portsOf]
  · rintro rfl
    refine ⟨fun option => ?_, rfl, List.Forall₂.nil⟩
    cases option <;> exact List.Forall₂.nil

/-- Taking occurrences one after the other gives the arguments that are exactly what they say, and
fails if there are none. -/
theorem foldlM_add_eq_ok_iff {occurrences : List Occurrence} {arguments : Arguments} :
    occurrences.foldlM Arguments.add {} = .ok arguments ↔ Recorded occurrences arguments := by
  induction occurrences using List.reverseRecOn generalizing arguments with
  | nil =>
    rw [recorded_nil_iff]
    simp [pure, Except.pure, eq_comm]
  | append_singleton occurrences occurrence ih =>
    rw [Recorded.concat_iff, List.foldlM_append, bind_eq_ok_iff]
    simp only [ih, List.foldlM_cons, List.foldlM_nil]
    refine exists_congr fun before => and_congr_right fun _ => ?_
    rw [bind_pure]

/-- Occurrences leave no choice of the arguments. -/
theorem Recorded.unique {occurrences : List Occurrence} {left right : Arguments}
    (hl : Recorded occurrences left) (hr : Recorded occurrences right) : left = right :=
  Except.ok.inj ((foldlM_add_eq_ok_iff.mpr hl).symm.trans (foldlM_add_eq_ok_iff.mpr hr))

end AssessmentRequest

import Mathlib.Data.List.TakeWhile
import AssessmentRequest.CommandLine.Arguments
import AssessmentRequest.Proofs.Text.Ascii

/-!
# Spelling of the options

What the words of a command line may stand for, said without the reader. An option with a
value is written with its long name or its letter, its value in the same word or in the next
one; the flag and the port are one word each. The byte 0x2D is a dash, 0x3D an equals sign.

Which words the reader takes as what: `take_of_attaches`, `take_of_opens`, `take_of_isPlain`
and `take_dryRun` for each sort of word, and `known_of_take` for all that it takes.
-/

namespace AssessmentRequest.CommandLine

/-- One thing that a command line gives. -/
inductive Occurrence where
  /-- A value of an option. -/
  | valued (option : Named) (value : Bytes)
  /-- The flag for a dry run. -/
  | dryRun
  /-- The port. -/
  | port (value : Bytes)
  deriving Repr, DecidableEq

/-- A name behind two dashes. -/
def longWord (name : String) : Bytes := 0x2D :: 0x2D :: Utf8.encode name

/-- A letter behind one dash. -/
def shortWord (letter : Char) : Bytes := [0x2D, Utf8.asciiByte letter]

/-- The word between the options and a port that may begin with a dash. -/
def endMark : Bytes := [0x2D, 0x2D]

/-- The word begins with no dash, or is a lone one. Such a word can be a value. -/
def IsPlain (word : Bytes) : Prop := word = [0x2D] ∨ word.head? ≠ some 0x2D

/-- The word names an option whose value is the next word. -/
inductive Opens : Bytes → Named → Prop where
  /-- By its long name. -/
  | long (option : Named) : Opens (longWord option.name) option
  /-- By its letter. -/
  | short {option : Named} {letter : Char} :
    option.letter? = some letter → Opens (shortWord letter) option

/-- The word gives an option its value. -/
inductive Attaches : Bytes → Named → Bytes → Prop where
  /-- Behind the long name and an equals sign. -/
  | long (option : Named) (value : Bytes) :
    Attaches (longWord option.name ++ 0x3D :: value) option value
  /-- Behind the letter and an equals sign. -/
  | equals {option : Named} {letter : Char} (value : Bytes) :
    option.letter? = some letter → Attaches (shortWord letter ++ 0x3D :: value) option value
  /-- Behind the letter. -/
  | short {option : Named} {letter : Char} {value : Bytes} :
    option.letter? = some letter → value ≠ [] → value.head? ≠ some 0x3D →
      Attaches (shortWord letter ++ value) option value

/-- The words stand for one occurrence. -/
inductive Spells : List Bytes → Occurrence → Prop where
  /-- The flag has one word only. -/
  | dryRun : Spells [longWord Flag.dryRun.name] .dryRun
  /-- An option and its value in one word. -/
  | attached {word value : Bytes} {option : Named} :
    Attaches word option value → Spells [word] (.valued option value)
  /-- An option and its value in two words. -/
  | apart {word value : Bytes} {option : Named} :
    Opens word option → IsPlain value → Spells [word, value] (.valued option value)
  /-- A port is a word without a dash in front. -/
  | port {value : Bytes} : value.head? ≠ some 0x2D → Spells [value] (.port value)

/-- The words, from left to right, stand for the occurrences. -/
inductive Cut : List Bytes → List Occurrence → Prop where
  /-- No words, nothing given. -/
  | nil : Cut [] []
  /-- The end mark alone. -/
  | endMark : Cut [endMark] []
  /-- Behind the end mark there may be a port, with a dash or without. -/
  | portBehind (value : Bytes) : Cut [CommandLine.endMark, value] [.port value]
  /-- An occurrence in front of others. -/
  | cons {words rest : List Bytes} {occurrence : Occurrence} {others : List Occurrence} :
    Spells words occurrence → Cut rest others → Cut (words ++ rest) (occurrence :: others)

/-- Options have different long names. -/
theorem Switch.ofName?_eq_some_iff {name : String} {switch : Switch} :
    Switch.ofName? name = some switch ↔ switch.name = name := by
  constructor
  · intro h
    simpa using List.find?_some h
  · rintro rfl
    cases switch with
    | valued option => cases option <;> rfl
    | bare flag => cases flag <;> rfl

/-- Options have different letters. -/
theorem Switch.ofLetter?_eq_some_iff {letter : Char} {switch : Switch} :
    Switch.ofLetter? letter = some switch ↔ switch.letter? = some letter := by
  constructor
  · intro h
    simpa using List.find?_some h
  · intro h
    cases switch with
    | valued option => cases option <;> cases h <;> rfl
    | bare flag => cases flag <;> cases h <;> rfl

/-- The letters are ASCII, and the dash is none of them. -/
theorem Switch.letter_bounds (switch : Switch) {letter : Char} (h : switch.letter? = some letter) :
    0 < letter.toNat ∧ letter.toNat < 128 ∧ Utf8.asciiByte letter ≠ 0x2D := by
  cases switch with
  | valued option => cases option <;> cases h <;> decide
  | bare flag => cases flag <;> cases h <;> decide

/-- The long names have no equals sign. -/
theorem Switch.equals_notMem_name (switch : Switch) : 0x3D ∉ Utf8.encode switch.name := by
  have hc : '=' ∉ switch.name.toList := by
    cases switch with
    | valued option => cases option <;> decide
    | bare flag => cases flag <;> decide
  exact fun hm => hc ((Utf8.asciiByte_mem_encode_iff '=' (by decide) switch.name).mp hm)

/-- The long names have a first byte. -/
theorem Switch.encode_name_ne_nil (switch : Switch) : Utf8.encode switch.name ≠ [] := by
  cases switch with
  | valued option => cases option <;> decide
  | bare flag => cases flag <;> decide

namespace Progress

/-- A name without an equals sign is split off whole. -/
theorem splitLong_of_notMem {name : Bytes} (h : 0x3D ∉ name) : splitLong name = (name, none) := by
  have hall : ∀ byte ∈ name, decide (byte ≠ 0x3D) := by
    intro byte hb
    exact decide_eq_true fun he => h (he ▸ hb)
  rw [splitLong, List.takeWhile_eq_self_iff.mpr hall, List.dropWhile_eq_nil_iff.mpr hall,
    List.tail?_nil]

/-- The first equals sign ends the name. -/
theorem splitLong_append {name : Bytes} (h : 0x3D ∉ name) (value : Bytes) :
    splitLong (name ++ 0x3D :: value) = (name, some value) := by
  have hall : ∀ byte ∈ name, decide (byte ≠ 0x3D) := by
    intro byte hb
    exact decide_eq_true fun he => h (he ▸ hb)
  rw [splitLong, List.takeWhile_append_of_pos hall, List.dropWhile_append_of_pos hall,
    List.takeWhile_cons_of_neg (by decide), List.dropWhile_cons_of_neg (by decide),
    List.append_nil, List.tail?_cons]

variable {progress : Progress} {word : Bytes}

/-- Behind the end mark every word is the port. -/
theorem take_of_onlyPort (ho : progress.onlyPort = true) :
    progress.take word = progress.takePort word := by
  unfold take
  rw [if_pos ho]

/-- A plain word is a value or the port. -/
theorem take_of_isPlain (ho : progress.onlyPort = false) (h : IsPlain word) :
    progress.take word = progress.takePlain word := by
  unfold take
  rw [if_neg (by simp [ho])]
  rcases h with rfl | hne
  · rfl
  · split
    · rfl
    · exact absurd rfl hne
    · exact absurd rfl hne
    · exact absurd rfl hne
    · rfl

/-- Two dashes leave the port only. -/
theorem take_endMark (ho : progress.onlyPort = false) :
    progress.take endMark = .ok { progress with onlyPort := true } := by
  unfold take
  rw [if_neg (by simp [ho])]
  rfl

/-- A word with two dashes in front is a long option. -/
theorem take_dashes (ho : progress.onlyPort = false) {rest : Bytes} (hne : rest ≠ []) :
    progress.take (0x2D :: 0x2D :: rest) =
      progress.takeLong (splitLong rest).1 (splitLong rest).2 := by
  obtain ⟨byte, others, rfl⟩ := List.exists_cons_of_ne_nil hne
  unfold take
  rw [if_neg (by simp [ho])]
  rfl

/-- A word with one dash in front is a letter. -/
theorem take_dash (ho : progress.onlyPort = false) {byte : UInt8} (hne : byte ≠ 0x2D)
    (rest : Bytes) :
    progress.take (0x2D :: byte :: rest) = progress.takeShort (byte :: rest) := by
  unfold take
  rw [if_neg (by simp [ho])]
  split <;> grind

/-- A name is found exactly if it is the long name of the option. -/
theorem found_iff {name : Bytes} {switch : Switch} :
    (Utf8.decode? name).bind Switch.ofName? = some switch ↔ name = Utf8.encode switch.name := by
  simp only [Option.bind_eq_some_iff, Utf8.decode?_eq_some_iff, Switch.ofName?_eq_some_iff]
  constructor
  · intro h
    obtain ⟨text, rfl, rfl⟩ := h
    rfl
  · rintro rfl
    exact ⟨switch.name, rfl, rfl⟩

/-- The long name of an option takes the option. -/
theorem takeLong_option (option : Named) (attached : Option Bytes) :
    progress.takeLong (Utf8.encode option.name) attached =
      progress.takeOption option attached := by
  have hs : (Utf8.decode? (Utf8.encode option.name)).bind Switch.ofName? =
    some (.valued option) := found_iff.mpr rfl
  unfold takeLong
  rw [hs]

/-- The letter of an option takes the option. -/
theorem takeShort_option {option : Named} {letter : Char} (h : option.letter? = some letter)
    (rest : Bytes) :
    progress.takeShort (Utf8.asciiByte letter :: rest) =
      progress.takeOption option (attachedToLetter rest) := by
  obtain ⟨hn, ha, -⟩ := Switch.letter_bounds (.valued option) h
  have hs : Switch.ofLetter? letter = some (.valued option) := Switch.ofLetter?_eq_some_iff.mpr h
  unfold takeShort
  rw [(Utf8.head?_eq_some_iff hn ha).mpr rfl]
  dsimp only
  rw [hs]

/-- A word that names an option takes it without a value. -/
theorem take_of_opens (ho : progress.onlyPort = false) {option : Named} (h : Opens word option) :
    progress.take word = progress.takeOption option none := by
  cases h with
  | long =>
    have hname : Utf8.encode option.name ≠ [] := Switch.encode_name_ne_nil (.valued option)
    have heq : 0x3D ∉ Utf8.encode option.name := Switch.equals_notMem_name (.valued option)
    rw [longWord, take_dashes ho hname, splitLong_of_notMem heq, takeLong_option]
  | short hl =>
    rw [shortWord, take_dash ho (Switch.letter_bounds (.valued option) hl).2.2,
      takeShort_option hl]
    rfl

/-- A word that holds a value takes the option with it. -/
theorem take_of_attaches (ho : progress.onlyPort = false) {option : Named} {value : Bytes}
    (h : Attaches word option value) :
    progress.take word = progress.takeOption option (some value) := by
  cases h with
  | long =>
    have heq : 0x3D ∉ Utf8.encode option.name := Switch.equals_notMem_name (.valued option)
    rw [longWord, List.cons_append, List.cons_append, take_dashes ho (by simp),
      splitLong_append heq, takeLong_option]
  | equals _ hl =>
    rw [shortWord, List.cons_append, List.cons_append, List.nil_append,
      take_dash ho (Switch.letter_bounds (.valued option) hl).2.2, takeShort_option hl]
    rfl
  | short hl hne heq =>
    obtain ⟨byte, rest, rfl⟩ := List.exists_cons_of_ne_nil hne
    have hb : byte ≠ 0x3D := fun he => heq (congrArg some he)
    rw [shortWord, List.cons_append, List.cons_append, List.nil_append,
      take_dash ho (Switch.letter_bounds (.valued option) hl).2.2, takeShort_option hl,
      attachedToLetter, if_neg hb]

/-- The word of the flag takes the flag. -/
theorem take_dryRun (ho : progress.onlyPort = false) :
    progress.take (longWord Flag.dryRun.name) = progress.takeFlag .dryRun := by
  have hname : Utf8.encode Flag.dryRun.name ≠ [] := Switch.encode_name_ne_nil (.bare .dryRun)
  have heq : 0x3D ∉ Utf8.encode Flag.dryRun.name := Switch.equals_notMem_name (.bare .dryRun)
  rw [longWord, take_dashes ho hname, splitLong_of_notMem heq]
  have hs : (Utf8.decode? (Utf8.encode Flag.dryRun.name)).bind Switch.ofName? =
    some (.bare .dryRun) := found_iff.mpr rfl
  unfold takeLong
  rw [hs]

end Progress

/-- The sorts of words that a command line is made of. -/
inductive Known : Bytes → Prop where
  /-- A value or the port. -/
  | plain {word : Bytes} : IsPlain word → Known word
  /-- The end mark. -/
  | endMark : Known endMark
  /-- The flag. -/
  | dryRun : Known (longWord Flag.dryRun.name)
  /-- An option without its value. -/
  | opening {word : Bytes} {option : Named} : Opens word option → Known word
  /-- An option with its value. -/
  | attaching {word value : Bytes} {option : Named} : Attaches word option value → Known word

namespace Progress

variable {progress next : Progress}

/-- The one flag that is taken is that of a dry run; the others end the reading. -/
theorem eq_dryRun_of_takeFlag {flag : Flag} (h : progress.takeFlag flag = .ok next) :
    flag = .dryRun := by
  unfold takeFlag at h
  cases hs : progress.settle with
  | error stop =>
    rw [hs] at h
    cases h
  | ok arguments =>
    rw [hs] at h
    cases flag with
    | dryRun => rfl
    | help => cases h
    | version => cases h

/-- A long option is taken only if it is known. -/
theorem known_of_takeLong {rest : Bytes}
    (h : progress.takeLong (splitLong rest).1 (splitLong rest).2 = .ok next) :
    Known (0x2D :: 0x2D :: rest) := by
  unfold takeLong at h
  by_cases hm : (0x3D : UInt8) ∈ rest
  · obtain ⟨name, value, rfl, hn⟩ := List.eq_append_cons_of_mem hm
    rw [splitLong_append hn] at h
    split at h
    · cases h
    · next option hs =>
      obtain rfl := found_iff.mp hs
      exact .attaching (.long option value)
    · cases h
  · rw [splitLong_of_notMem hm] at h
    split at h
    · cases h
    · next option hs =>
      obtain rfl := found_iff.mp hs
      exact .opening (.long option)
    · next flag hs =>
      obtain rfl := found_iff.mp hs
      rw [eq_dryRun_of_takeFlag h]
      exact .dryRun

/-- A letter is taken only if it is known. -/
theorem known_of_takeShort {word : Bytes} (h : progress.takeShort word = .ok next) :
    Known (0x2D :: word) := by
  unfold takeShort at h
  split at h
  · cases h
  · next letter rest hh =>
    split at h
    · cases h
    · next option hs =>
      have hl : option.letter? = some letter := Switch.ofLetter?_eq_some_iff.mp hs
      obtain ⟨hn, ha, -⟩ := Switch.letter_bounds (.valued option) hl
      obtain rfl := (Utf8.head?_eq_some_iff hn ha).mp hh
      match rest with
      | [] => exact .opening (.short hl)
      | byte :: others =>
        by_cases hb : byte = 0x3D
        · rw [hb]
          exact .attaching (.equals others hl)
        · exact .attaching (.short hl (List.cons_ne_nil byte others) (by simpa using hb))
    · next flag hs =>
      obtain rfl := eq_dryRun_of_takeFlag h
      have hl := Switch.ofLetter?_eq_some_iff.mp hs
      cases hl

/-- Only words of the known sorts are taken. -/
theorem known_of_take (ho : progress.onlyPort = false) {word : Bytes}
    (h : progress.take word = .ok next) : Known word := by
  match word with
  | [] => exact .plain (.inr (by simp))
  | byte :: rest =>
    by_cases hb : byte = 0x2D
    · subst hb
      match rest with
      | [] => exact .plain (.inl rfl)
      | second :: others =>
        by_cases hsecond : second = 0x2D
        · subst hsecond
          by_cases hne : others = []
          · subst hne
            exact .endMark
          · rw [take_dashes ho hne] at h
            exact known_of_takeLong h
        · rw [take_dash ho hsecond] at h
          exact known_of_takeShort h
    · exact .plain (.inr (by simpa using hb))

end Progress

end AssessmentRequest.CommandLine

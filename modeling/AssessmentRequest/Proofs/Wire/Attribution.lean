import AssessmentRequest.Proofs.Wire.Grammar

/-!
# The line in error

What a line has to be follows from its place and from the number that the second line announces:
a kind, a count, the line of a record or the end line. Bytes are in error exactly if one of their
lines is not what its place asks for and all lines before it are, and the error says what this line
is not, with its text.

Main statements: `accept_eq_error_iff`, `exists_passes_iff`, `firstWrong_iff` and
`decode_eq_error_iff_firstWrong`.
-/

namespace AssessmentRequest.Wire

/-- What a line is in a request. -/
inductive Role where
  /-- The first line. -/
  | kind
  /-- The second line. -/
  | count
  /-- A line among those of the records. -/
  | record
  /-- The line after the last record. -/
  | done
  deriving Repr, DecidableEq

namespace Role

/-- The role of the line behind so many others, where so many records are announced. -/
def ofPlace (announced : Nat) : Nat → Role
  | 0 => kind
  | 1 => count
  | place + 2 => if place < announced then record else done

/-- The text is one that a line in this role may have. -/
def Fits : Role → String → Prop
  | kind, text => ∃ named : Kind, SameLetters text named.tag
  | count, text =>
    ∃ announced, Numeral.Denotes text.toList announced ∧ 0 < announced ∧ announced ≤ countLimit
  | record, text => text.toList.count ',' = 4
  | done, text => text = Wire.done

/-- The error of a line in this role whose text does not fit. -/
def misfit : Role → String → LineError
  | kind => .unknownKind
  | count => .invalidCount
  | record => .invalidRecord
  | done => .missingDone

/-- The line is a text that fits its role. -/
def Right (role : Role) (raw : Bytes) : Prop := ∃ text, Carries raw text ∧ role.Fits text

/-- The error says what is wrong with a line in this role. -/
inductive Describes (role : Role) (raw : Bytes) : LineError → Prop where
  /-- The line is no text at all. -/
  | notText : (∀ text, ¬ Carries raw text) → Describes role raw .invalidUtf8
  /-- The text of the line does not fit. -/
  | misfit {text : String} :
    Carries raw text → ¬ role.Fits text → Describes role raw (role.misfit text)

end Role

/-- The lines are right, each for its place, where so many records are announced, and the end line
is not among them. -/
structure RightLines (announced : Nat) (lines : List Bytes) : Prop where
  /-- The second line announces this number of records. -/
  announces : ∀ raw text, lines[1]? = some raw → Carries raw text →
    Numeral.Denotes text.toList announced
  /-- Every line is what its place asks for. -/
  fits : ∀ place raw, lines[place]? = some raw → (Role.ofPlace announced place).Right raw
  /-- There are no more lines than those of the kind, the count and the records. -/
  unfinished : lines.length ≤ announced + 2

/-- The line is the first wrong one, behind lines that are right, and the error describes it. -/
def FirstWrong (lines : List Bytes) (raw : Bytes) (error : LineError) : Prop :=
  ∃ announced, RightLines announced lines ∧
    (Role.ofPlace announced lines.length).Describes raw error

/-- The role of the line that is read next. -/
def Awaiting.role : Awaiting → Role
  | .kind => .kind
  | .count _ => .count
  | .body _ (_ + 1) _ => .record
  | .body _ 0 _ => .done

namespace Awaiting

/-- A text is refused exactly if it does not fit the role of its line, with the error of that
role. -/
theorem acceptText_eq_error_iff {awaiting : Awaiting} {text : String} {error : LineError} :
    awaiting.acceptText text = .error error ↔
      ¬ awaiting.role.Fits text ∧ error = awaiting.role.misfit text := by
  cases awaiting with
  | kind =>
    have hfits : Role.kind.Fits text ↔ ∃ named, Kind.ofTag? text = some named := by
      simp only [Role.Fits, Kind.ofTag?_eq_some_iff]
    simp only [role, hfits, acceptText, Role.misfit]
    cases Kind.ofTag? text <;> simp [eq_comm]
  | count named =>
    have hfits : Role.count.Fits text ↔ ∃ announced, readCount? text = some announced := by
      simp only [Role.Fits, readCount?_eq_some_iff]
    simp only [role, hfits, acceptText, Role.misfit]
    cases readCount? text <;> simp [eq_comm]
  | body named missing records =>
    cases missing with
    | zero =>
      simp only [role, Role.Fits, acceptText, Role.misfit]
      by_cases hd : text = Wire.done
      · simp only [hd, if_true, reduceCtorEq, not_true_eq_false, false_and]
      · simp only [hd, if_false, not_false_eq_true, true_and, Except.error.injEq, eq_comm]
    | succ missing =>
      have hfits : Role.record.Fits text ↔ ∃ record, Record.ofLine? text = some record := by
        rw [Record.exists_ofLine?_iff, Role.Fits]
      simp only [role, hfits, acceptText, Role.misfit]
      cases Record.ofLine? text <;> simp [eq_comm]

/-- A line is refused exactly if it is no text or its text does not fit, with the error that
describes it. -/
theorem accept_eq_error_iff {awaiting : Awaiting} {raw : Bytes} {error : LineError} :
    awaiting.accept raw = .error error ↔ awaiting.role.Describes raw error := by
  constructor
  · intro h
    unfold accept at h
    split at h
    · next text hd =>
      have hcarries := carries_iff.mpr (Utf8.decode?_eq_some_iff.mp hd)
      obtain ⟨hfits, rfl⟩ := acceptText_eq_error_iff.mp h
      exact .misfit hcarries hfits
    · next hd =>
      cases h
      refine .notText fun text hcarries => ?_
      rw [carries_iff, ← Utf8.decode?_eq_some_iff, hd] at hcarries
      contradiction
  · intro h
    unfold accept
    cases h with
    | notText hnone =>
      simp only [carries_iff, ← Utf8.decode?_eq_some_iff] at hnone
      rw [Option.eq_none_iff_forall_ne_some.mpr hnone]
    | misfit hcarries hfits =>
      rw [Utf8.decode?_eq_some_iff.mpr (carries_iff.mp hcarries)]
      exact acceptText_eq_error_iff.mpr ⟨hfits, rfl⟩

end Awaiting

/-- A line is right among those of the records exactly if it carries the line of a record. -/
theorem right_record_iff {raw : Bytes} :
    Role.record.Right raw ↔ ∃ record, CarriesRecord raw record := by
  simp only [Role.Right, Role.Fits, ← Record.exists_ofLine?_iff, Record.ofLine?_eq_some_iff]
  constructor
  · intro h
    obtain ⟨text, hcarries, record, rfl, hlacks⟩ := h
    exact ⟨record, hcarries, hlacks⟩
  · intro h
    obtain ⟨record, hcarries, hlacks⟩ := h
    exact ⟨record.line, hcarries, record, rfl, hlacks⟩

/-- While records are missing, exactly the right lines are taken, no more of them than are missing,
and the end line is due once none is. -/
theorem exists_passes_body_iff {named : Kind} {missing : Nat} {records : List Record}
    {lines : List Bytes} {role : Role} :
    (∃ last, Passes (.body named missing records) lines last ∧ last.role = role) ↔
      (∀ raw ∈ lines, Role.record.Right raw) ∧ lines.length ≤ missing ∧
        role = if lines.length < missing then .record else .done := by
  simp only [right_record_iff]
  -- every record line that is taken leaves one fewer missing, so the bound moves with the list
  induction lines generalizing missing records with
  | nil =>
    have hrole : ∀ records, (Awaiting.body named missing records).role =
        if 0 < missing then .record else .done := by
      intro records
      cases missing <;> rfl
    simp only [List.not_mem_nil, false_implies, implies_true, List.length_nil, Nat.zero_le,
      true_and]
    constructor
    · intro h
      obtain ⟨last, hpasses, rfl⟩ := h
      cases hpasses
      exact hrole records
    · rintro rfl
      exact ⟨_, .nil _, hrole records⟩
  | cons raw lines ih =>
    rw [List.forall_mem_cons, List.length_cons]
    constructor
    · intro h
      obtain ⟨last, hpasses, hrole⟩ := h
      cases hpasses with
      | cons hraw hrest =>
        obtain ⟨text, hcarries, htakes⟩ := Awaiting.accept_eq_ok_iff.mp hraw
        cases htakes with
        | record hlacks =>
          obtain ⟨hlines, hle, hlast⟩ := ih.mp ⟨last, hrest, hrole⟩
          refine ⟨⟨⟨_, hcarries, hlacks⟩, hlines⟩, Nat.succ_le_succ hle, ?_⟩
          simpa only [Nat.add_lt_add_iff_right] using hlast
    · intro h
      obtain ⟨⟨⟨record, hcarries, hlacks⟩, hlines⟩, hle, hrole⟩ := h
      cases missing with
      | zero => exact absurd hle (Nat.not_succ_le_zero _)
      | succ missing =>
        simp only [Nat.add_lt_add_iff_right] at hrole
        have hraw : (Awaiting.body named (missing + 1) records).accept raw =
            .ok (.next (.body named missing (records ++ [record]))) :=
          Awaiting.accept_eq_ok_iff.mpr ⟨_, hcarries, .record hlacks⟩
        obtain ⟨last, hrest, hlast⟩ := ih.mpr ⟨hlines, Nat.le_of_succ_le_succ hle, hrole⟩
        exact ⟨last, .cons hraw hrest, hlast⟩

/-- No line is wrong where none has come. -/
theorem rightLines_nil (announced : Nat) : RightLines announced [] := by
  constructor
  case announces =>
    intro raw text hraw
    contradiction
  case fits =>
    intro place raw hraw
    contradiction
  case unfinished => exact Nat.zero_le _

/-- A first line alone is right by its own. -/
theorem rightLines_singleton_iff {announced : Nat} {kindLine : Bytes} :
    RightLines announced [kindLine] ↔ Role.kind.Right kindLine := by
  constructor
  · exact fun h => h.fits 0 kindLine rfl
  · intro h
    constructor
    case announces =>
      intro raw text hraw
      contradiction
    case fits =>
      intro place raw hraw
      match place with
      | 0 =>
        obtain rfl : kindLine = raw := Option.some.inj hraw
        exact h
      | place + 1 => contradiction
    case unfinished => exact Nat.le_add_left 1 (announced + 1)

/-- Behind the first two lines only those of records are right. -/
theorem rightLines_cons_cons_iff {announced : Nat} {kindLine countLine : Bytes}
    {others : List Bytes} :
    RightLines announced (kindLine :: countLine :: others) ↔
      Role.kind.Right kindLine ∧
        (Role.count.Right countLine ∧
          ∀ text, Carries countLine text → Numeral.Denotes text.toList announced) ∧
        (∀ raw ∈ others, Role.record.Right raw) ∧ others.length ≤ announced := by
  constructor
  · intro h
    have hlength : others.length ≤ announced := by
      have hunfinished := h.unfinished
      rw [List.length_cons, List.length_cons] at hunfinished
      omega
    refine ⟨h.fits 0 kindLine rfl, ⟨h.fits 1 countLine rfl, fun text => h.announces _ text rfl⟩,
      fun raw hm => ?_, hlength⟩
    obtain ⟨place, hplace, rfl⟩ := List.getElem_of_mem hm
    have hright := h.fits (place + 2) others[place] (List.getElem?_eq_getElem hplace)
    rwa [Role.ofPlace, if_pos (by omega)] at hright
  · intro h
    obtain ⟨hkind, ⟨hcount, hannounces⟩, hothers, hlength⟩ := h
    constructor
    case announces =>
      intro raw text hraw hcarries
      obtain rfl : countLine = raw := Option.some.inj hraw
      exact hannounces text hcarries
    case fits =>
      intro place raw hraw
      match place with
      | 0 =>
        obtain rfl : kindLine = raw := Option.some.inj hraw
        exact hkind
      | 1 =>
        obtain rfl : countLine = raw := Option.some.inj hraw
        exact hcount
      | place + 2 =>
        have hother : others[place]? = some raw := hraw
        obtain ⟨hplace, -⟩ := List.getElem?_eq_some_iff.mp hother
        rw [Role.ofPlace, if_pos (by omega)]
        exact hothers raw (List.mem_of_getElem? hother)
    case unfinished => exact Nat.add_le_add_right hlength 2

/-- A right first line is taken, and the count is due. -/
theorem right_kind_iff {raw : Bytes} :
    Role.kind.Right raw ↔ ∃ named, Awaiting.kind.accept raw = .ok (.next (.count named)) := by
  simp only [Awaiting.accept_eq_ok_iff]
  constructor
  · intro h
    obtain ⟨text, hcarries, named, hletters⟩ := h
    exact ⟨named, text, hcarries, .kind hletters⟩
  · intro h
    obtain ⟨named, text, hcarries, htakes⟩ := h
    cases htakes with
    | kind hletters => exact ⟨text, hcarries, named, hletters⟩

/-- A right second line is taken, and the number that it announces is missing. -/
theorem right_count_iff {raw : Bytes} {announced : Nat} {named : Kind} :
    (Role.count.Right raw ∧ ∀ text, Carries raw text → Numeral.Denotes text.toList announced) ↔
      (Awaiting.count named).accept raw = .ok (.next (.body named announced [])) := by
  rw [Awaiting.accept_eq_ok_iff]
  constructor
  · intro h
    obtain ⟨⟨text, hcarries, number, hnumeral, hpos, hle⟩, hannounces⟩ := h
    obtain rfl := hnumeral.unique (hannounces text hcarries)
    exact ⟨text, hcarries, .count hnumeral hpos hle⟩
  · intro h
    obtain ⟨text, hcarries, htakes⟩ := h
    cases htakes with
    | count hnumeral hpos hle =>
      refine ⟨⟨text, hcarries, announced, hnumeral, hpos, hle⟩, fun other hother => ?_⟩
      rwa [hother.unique hcarries]

/-- Exactly the lines that are right for their places are taken before the end line, and the next
line is then due in the role of its place. -/
theorem exists_passes_iff {lines : List Bytes} {role : Role} :
    (∃ last, Passes .kind lines last ∧ last.role = role) ↔
      ∃ announced, RightLines announced lines ∧ role = Role.ofPlace announced lines.length := by
  -- the number that is announced is known from the second line on, any number will do before
  match lines with
  | [] =>
    constructor
    · intro h
      obtain ⟨last, hpasses, rfl⟩ := h
      cases hpasses
      exact ⟨0, rightLines_nil 0, rfl⟩
    · intro h
      obtain ⟨announced, -, rfl⟩ := h
      exact ⟨.kind, .nil _, rfl⟩
  | [kindLine] =>
    simp only [rightLines_singleton_iff, right_kind_iff]
    constructor
    · intro h
      obtain ⟨last, hpasses, rfl⟩ := h
      cases hpasses with
      | cons hkind hrest =>
        cases hrest
        obtain ⟨text, -, htakes⟩ := Awaiting.accept_eq_ok_iff.mp hkind
        cases htakes
        exact ⟨0, ⟨_, hkind⟩, rfl⟩
    · intro h
      obtain ⟨announced, ⟨named, hkind⟩, rfl⟩ := h
      exact ⟨.count named, .cons hkind (.nil _), rfl⟩
  | kindLine :: countLine :: others =>
    simp only [rightLines_cons_cons_iff, right_kind_iff]
    constructor
    · intro h
      obtain ⟨last, hpasses, hrole⟩ := h
      cases hpasses with
      | cons hkind hrest =>
        obtain ⟨text, -, htakes⟩ := Awaiting.accept_eq_ok_iff.mp hkind
        cases htakes
        cases hrest with
        | cons hcount hbody =>
          obtain ⟨text, -, htakes⟩ := Awaiting.accept_eq_ok_iff.mp hcount
          cases htakes
          obtain ⟨hothers, hlength, hlast⟩ := exists_passes_body_iff.mp ⟨last, hbody, hrole⟩
          exact ⟨_, ⟨⟨_, hkind⟩, right_count_iff.mpr hcount, hothers, hlength⟩, hlast⟩
    · intro h
      obtain ⟨announced, ⟨⟨named, hkind⟩, hcount, hothers, hlength⟩, hrole⟩ := h
      obtain ⟨last, hbody, hlast⟩ := exists_passes_body_iff.mpr ⟨hothers, hlength, hrole⟩
      exact ⟨last, .cons hkind (.cons (right_count_iff.mp hcount) hbody), hlast⟩

/-- A line is the first wrong one exactly if all lines before it are taken and it is refused. -/
theorem firstWrong_iff {lines : List Bytes} {raw : Bytes} {error : LineError} :
    FirstWrong lines raw error ↔
      ∃ last, Passes .kind lines last ∧ last.accept raw = .error error := by
  simp only [Awaiting.accept_eq_error_iff]
  constructor
  · intro h
    obtain ⟨announced, hlines, hdescribes⟩ := h
    obtain ⟨last, hpasses, hrole⟩ := exists_passes_iff.mpr ⟨announced, hlines, rfl⟩
    exact ⟨last, hpasses, by rwa [hrole]⟩
  · intro h
    obtain ⟨last, hpasses, hdescribes⟩ := h
    obtain ⟨announced, hlines, hrole⟩ := exists_passes_iff.mp ⟨last, hpasses, rfl⟩
    exact ⟨announced, hlines, by rwa [← hrole]⟩

/-- Bytes are in error exactly if they begin with lines of which the last is the first wrong one,
and the error describes it. The bytes behind that line never matter. -/
theorem decode_eq_error_iff_firstWrong :
    (∀ bytes error, decode bytes = .error error ↔
        ∃ lines raw rest, bytes = (lines ++ [raw]).flatMap terminate ++ rest ∧
          (∀ line ∈ lines ++ [raw], lineFeed ∉ line) ∧ FirstWrong lines raw error) ∧
      ∀ lines raw error, (∀ line ∈ lines ++ [raw], lineFeed ∉ line) →
        FirstWrong lines raw error →
          ∀ rest, decode ((lines ++ [raw]).flatMap terminate ++ rest) = .error error := by
  have hdecode : ∀ bytes error, decode bytes = .error error ↔
      ∃ lines raw rest, bytes = (lines ++ [raw]).flatMap terminate ++ rest ∧
        (∀ line ∈ lines ++ [raw], lineFeed ∉ line) ∧ FirstWrong lines raw error := by
    intro bytes error
    rw [decode_eq_iff Verdict.noConfusion]
    simp only [Awaiting.verdict?_eq_error_iff, firstWrong_iff, exists_and_left]
  refine ⟨hdecode, fun lines raw error hlines hwrong rest => ?_⟩
  exact (hdecode _ error).mpr ⟨lines, raw, rest, rfl, hlines, hwrong⟩

/-- The lines of a request for two documents up to its first record, with both terminators. -/
def firstOfTwo : List Bytes :=
  [Utf8.encode "GRAPH", Utf8.encode "+2\r", Utf8.encode "i,m,s,u,n"]

/-- A second record of four fields is in error, and so is a second record that is no text,
whatever comes after it. -/
theorem decode_eq_error_iff_firstWrong_secondRecord :
    (FirstWrong firstOfTwo (Utf8.encode "i,m,s,u\r") (.invalidRecord "i,m,s,u") ∧
        ∀ rest, decode ((firstOfTwo ++ [Utf8.encode "i,m,s,u\r"]).flatMap terminate ++ rest) =
          .error (.invalidRecord "i,m,s,u")) ∧
      FirstWrong firstOfTwo [0x2C, 0xFF] .invalidUtf8 ∧
        ∀ rest, decode ((firstOfTwo ++ [[0x2C, 0xFF]]).flatMap terminate ++ rest) =
          .error .invalidUtf8 := by
  have hkind : Awaiting.kind.accept (Utf8.encode "GRAPH") = .ok (.next (.count .graph)) := by
    decide +kernel
  have hcount : (Awaiting.count .graph).accept (Utf8.encode "+2\r") =
      .ok (.next (.body .graph 2 [])) := by decide +kernel
  have hrecord : (Awaiting.body .graph 2 []).accept (Utf8.encode "i,m,s,u,n") =
      .ok (.next (.body .graph 1 [⟨"i", "m", "s", "u", "n"⟩])) := by decide +kernel
  have hpasses : Passes .kind firstOfTwo (.body .graph 1 [⟨"i", "m", "s", "u", "n"⟩]) :=
    .cons hkind (.cons hcount (.cons hrecord (.nil _)))
  have hshort : FirstWrong firstOfTwo (Utf8.encode "i,m,s,u\r") (.invalidRecord "i,m,s,u") :=
    firstWrong_iff.mpr ⟨_, hpasses, by decide +kernel⟩
  have hbytes : FirstWrong firstOfTwo [0x2C, 0xFF] .invalidUtf8 :=
    firstWrong_iff.mpr ⟨_, hpasses, by decide +kernel⟩
  exact ⟨⟨hshort, decode_eq_error_iff_firstWrong.2 _ _ _ (by decide +kernel) hshort⟩, hbytes,
    decode_eq_error_iff_firstWrong.2 _ _ _ (by decide +kernel) hbytes⟩

end AssessmentRequest.Wire

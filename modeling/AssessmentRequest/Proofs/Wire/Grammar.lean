import AssessmentRequest.Proofs.Matching
import AssessmentRequest.Proofs.Record.Line
import AssessmentRequest.Proofs.Text.Decimal
import AssessmentRequest.Proofs.Wire.Reading

/-!
# The grammar of requests

A request is spelled by a line with its kind in any case, a line with the number of its records
as a decimal numeral, the lines of its records and the end line. The reader accepts exactly the
bytes that begin with such lines, each of them carried by a raw line.

Main statements: `decode_eq_complete_iff` and `decode_eq_complete_iff_spelled`.
-/

namespace AssessmentRequest

/-- The letters of the text are those of the tag, whatever the case of ASCII letters. -/
def SameLetters (text tag : String) : Prop :=
  List.Forall₂ (fun written letter => written.toLower = letter.toLower) text.toList tag.toList

namespace Kind

/-- Lower case letters are compared, and a tag has no others. -/
theorem sameLetters_iff {text : String} {kind : Kind} :
    SameLetters text kind.tag ↔ lowerAscii text = kind.tag.toList := by
  have ht : kind.tag.toList.map Char.toLower = kind.tag.toList := by
    cases kind <;> decide
  have he : SameLetters text kind.tag ↔
      List.Forall₂ Eq (text.toList.map Char.toLower) (kind.tag.toList.map Char.toLower) := by
    rw [List.forall₂_map_left_iff, List.forall₂_map_right_iff]
    rfl
  rw [he, List.forall₂_eq_eq_eq, ht, lowerAscii]

/-- A word names the kind whose tag has its letters. -/
theorem ofTag?_eq_some_iff {text : String} {kind : Kind} :
    ofTag? text = some kind ↔ SameLetters text kind.tag := by
  rw [sameLetters_iff]
  unfold ofTag?
  split
  · next hq =>
    cases kind with
    | quality => simp only [hq]
    | graph =>
      have hne : quality.tag.toList ≠ graph.tag.toList := by decide
      simp only [hq, hne, Option.some.injEq, reduceCtorEq]
  · next hq =>
    split
    · next hg =>
      cases kind with
      | quality => simp only [hq, Option.some.injEq, reduceCtorEq]
      | graph => simp only [hg]
    · next hg => cases kind <;> simp only [hq, hg, reduceCtorEq]

end Kind

/-- A word with the letters of a tag holds no control character. -/
theorem SameLetters.not_mem_control {text : String} {kind : Kind}
    (hs : SameLetters text kind.tag) {char : Char} (h : char.toNat < 32) :
    char ∉ text.toList := by
  intro hm
  have hl : char.toLower ∈ Kind.lowerAscii text := List.mem_map_of_mem hm
  have ht : ∀ letter ∈ kind.tag.toList, 32 ≤ letter.toNat := by
    cases kind <;> simp [Kind.tag]
  rw [Kind.sameLetters_iff.mp hs, Utf8.toLower_of_not_capital (by omega)] at hl
  have hle := ht char hl
  omega

namespace Wire

/-- A count line announces a number exactly if it is a numeral of it and the number is
neither zero nor above the limit. -/
theorem readCount?_eq_some_iff {text : String} {count : Nat} :
    readCount? text = some count ↔
      Numeral.Denotes text.toList count ∧ 0 < count ∧ count ≤ countLimit := by
  have hread : Numeral.Denotes text.toList count ∧ 0 < count ∧ count ≤ countLimit ↔
      Numeral.readNat countLimit text.toList = .ok count ∧ 0 < count := by
    rw [Numeral.readNat_eq_ok_iff, and_assoc, and_comm (a := 0 < count)]
  rw [hread]
  unfold readCount?
  split
  · next hz =>
    simp only [hz, reduceCtorEq, Except.ok.injEq, false_iff, not_and]
    omega
  · next value hne hv =>
    have hpos : 0 < value := Nat.pos_of_ne_zero hne
    simp only [hv, Option.some.injEq, Except.ok.injEq]
    constructor
    · intro h
      exact ⟨h, h ▸ hpos⟩
    · exact And.left
  · next he => simp only [he, reduceCtorEq, false_and]

/-- What a line has to be, and what it leads to, in each state of the reading. -/
inductive Awaiting.Takes : Awaiting → String → Step → Prop where
  /-- The first line names a kind. -/
  | kind {text : String} {named : Kind} :
    SameLetters text named.tag → Takes .kind text (.next (.count named))
  /-- The second line announces a number of records. -/
  | count {text : String} {named : Kind} {announced : Nat} :
    Numeral.Denotes text.toList announced → 0 < announced → announced ≤ countLimit →
      Takes (.count named) text (.next (.body named announced []))
  /-- While records are missing, a line is the line of a record. -/
  | record {named : Kind} {missing : Nat} {records : List Record} {record : Record} :
    record.Lacks ',' →
      Takes (.body named (missing + 1) records) record.line
        (.next (.body named missing (records ++ [record])))
  /-- After the last record comes the end line. -/
  | done {named : Kind} {records : List Record} :
    Takes (.body named 0 records) Wire.done (.finished ⟨named, records⟩)

namespace Awaiting

/-- A text is accepted exactly if it is what the state asks for. -/
theorem acceptText_eq_ok_iff {awaiting : Awaiting} {text : String} {step : Step} :
    awaiting.acceptText text = .ok step ↔ awaiting.Takes text step := by
  constructor
  · intro h
    unfold acceptText at h
    split at h
    · split at h
      · next hk =>
        cases h
        exact .kind (Kind.ofTag?_eq_some_iff.mp hk)
      · contradiction
    · split at h
      · next hc =>
        cases h
        obtain ⟨hd, hpos, hle⟩ := readCount?_eq_some_iff.mp hc
        exact .count hd hpos hle
      · contradiction
    · split at h
      · next hr =>
        cases h
        obtain ⟨ht, hl⟩ := Record.ofLine?_eq_some_iff.mp hr
        rw [ht]
        exact .record hl
      · contradiction
    · split at h
      · next hd =>
        cases h
        rw [hd]
        exact .done
      · contradiction
  · intro h
    cases h with
    | kind hs =>
      have hk := Kind.ofTag?_eq_some_iff.mpr hs
      simp only [acceptText, hk]
    | count hd hpos hle =>
      have hc := readCount?_eq_some_iff.mpr ⟨hd, hpos, hle⟩
      simp only [acceptText, hc]
    | record hl =>
      have hr := Record.ofLine?_eq_some_iff.mpr ⟨rfl, hl⟩
      simp only [acceptText, hr]
    | done => simp only [acceptText, if_true]

/-- Only the end line finishes, after the last record, with the records that are there. -/
theorem takes_finished_iff {awaiting : Awaiting} {text : String} {request : Request} :
    awaiting.Takes text (.finished request) ↔
      awaiting = .body request.kind 0 request.records ∧ text = Wire.done := by
  constructor
  · intro h
    cases h
    exact ⟨rfl, rfl⟩
  · intro h
    rw [h.1, h.2]
    exact .done

/-- A raw line is accepted exactly if it carries a text that the state asks for. -/
theorem accept_eq_ok_iff {awaiting : Awaiting} {raw : Bytes} {step : Step} :
    awaiting.accept raw = .ok step ↔ ∃ text, Carries raw text ∧ awaiting.Takes text step := by
  simp only [carries_iff, ← Utf8.decode?_eq_some_iff, ← acceptText_eq_ok_iff]
  unfold accept
  split
  · next hd => simp only [hd, Option.some.injEq, exists_eq_left']
  · next hd => simp only [hd, reduceCtorEq, false_and, exists_const]

end Awaiting

/-- The raw line carries the line of a record that can be cut at its commas. -/
def CarriesRecord (raw : Bytes) (record : Record) : Prop :=
  Carries raw record.line ∧ record.Lacks ','

/-- Raw lines carry records exactly if they carry the record lines and these can be cut. -/
theorem forall₂_carriesRecord_iff {lines : List Bytes} {records : List Record} :
    List.Forall₂ CarriesRecord lines records ↔
      List.Forall₂ Carries lines (records.map Record.line) ∧
        ∀ record ∈ records, record.Lacks ',' := by
  induction records generalizing lines with
  | nil => simp
  | cons record records ih =>
    cases lines with
    | nil => simp
    | cons raw lines =>
      simp only [List.forall₂_cons, List.map_cons, List.forall_mem_cons, ih, CarriesRecord]
      exact and_and_and_comm

/-- While records are missing, exactly the lines of further records are taken, and each of them
is added to those that are there. -/
theorem passes_body_iff {named : Kind} {missing : Nat} {records : List Record}
    {lines : List Bytes} {last : Awaiting} :
    Passes (.body named missing records) lines last ↔
      ∃ added, List.Forall₂ CarriesRecord lines added ∧ added.length ≤ missing ∧
        last = .body named (missing - added.length) (records ++ added) := by
  induction lines generalizing missing records with
  | nil =>
    constructor
    · intro h
      cases h
      exact ⟨[], .nil, Nat.zero_le _, by simp⟩
    · intro h
      obtain ⟨added, ha, -, rfl⟩ := h
      rw [List.forall₂_nil_left_iff] at ha
      rw [ha, List.length_nil, Nat.sub_zero, List.append_nil]
      exact .nil _
  | cons raw lines ih =>
    constructor
    · intro h
      cases h with
      | cons hraw hrest =>
        obtain ⟨text, hc, ht⟩ := Awaiting.accept_eq_ok_iff.mp hraw
        cases ht with
        | record hl =>
          obtain ⟨added, ha, hle, rfl⟩ := ih.mp hrest
          refine ⟨_ :: added, .cons ⟨hc, hl⟩ ha, ?_, ?_⟩
          · exact Nat.succ_le_succ hle
          · rw [List.length_cons, Nat.succ_sub_succ, List.append_assoc, List.singleton_append]
    · intro h
      obtain ⟨added, ha, hle, rfl⟩ := h
      cases ha with
      | cons hfirst hothers =>
        obtain ⟨hc, hl⟩ := hfirst
        cases missing with
        | zero => simp at hle
        | succ missing =>
          refine .cons (Awaiting.accept_eq_ok_iff.mpr ⟨_, hc, .record hl⟩) (ih.mpr ⟨_, hothers, ?_, ?_⟩)
          · exact Nat.le_of_succ_le_succ hle
          · rw [List.length_cons, Nat.succ_sub_succ, List.append_assoc, List.singleton_append]

/-- The texts of the lines that spell a request. -/
inductive Spelled (request : Request) : List String → Prop where
  /-- A kind line and a count line stand before the record lines, the end line after them. -/
  | intro {kindLine countLine : String} :
    SameLetters kindLine request.kind.tag → Numeral.Denotes countLine.toList request.count →
      0 < request.count → request.count ≤ countLimit →
      (∀ record ∈ request.records, record.Lacks ',') →
      Spelled request ([kindLine, countLine] ++ request.records.map Record.line ++ [done])

/-- A spelling has a line for the kind, the count and the end, and one for each record. -/
theorem Spelled.length {request : Request} {texts : List String} (h : Spelled request texts) :
    texts.length = request.count + 3 := by
  cases h with
  | intro hk hd hpos hle hl =>
    simp only [List.length_append, List.length_cons, List.length_nil, List.length_map,
      Request.count]
    omega

/-- The reading that finishes with a request has taken a spelling of it. -/
theorem spelled_of_finished {before : List Bytes} {raw : Bytes} {last : Awaiting}
    {request : Request} (hb : Passes .kind before last)
    (hr : last.accept raw = .ok (.finished request)) :
    ∃ texts, List.Forall₂ Carries (before ++ [raw]) texts ∧ Spelled request texts := by
  obtain ⟨endText, hend, htaken⟩ := Awaiting.accept_eq_ok_iff.mp hr
  obtain ⟨hlast, rfl⟩ := Awaiting.takes_finished_iff.mp htaken
  cases hb with
  | nil => contradiction
  | cons hkind hrest =>
    obtain ⟨kindText, hkindText, hk⟩ := Awaiting.accept_eq_ok_iff.mp hkind
    cases hk with
    | kind hletters =>
      cases hrest with
      | nil => contradiction
      | cons hcount hbody =>
        obtain ⟨countText, hcountText, hc⟩ := Awaiting.accept_eq_ok_iff.mp hcount
        cases hc with
        | count hnumeral hpos hle =>
          obtain ⟨added, ha, hmissing, rfl⟩ := passes_body_iff.mp hbody
          obtain ⟨hlines, hlacks⟩ := forall₂_carriesRecord_iff.mp ha
          obtain ⟨rfl, hzero, rfl⟩ := Awaiting.body.inj hlast
          have hall := Nat.le_antisymm (Nat.le_of_sub_eq_zero hzero) hmissing
          rw [hall] at hnumeral hpos hle
          refine ⟨_, ?_, .intro hletters hnumeral hpos hle hlacks⟩
          exact .cons hkindText (.cons hcountText (List.rel_append hlines (.cons hend .nil)))

/-- The reading takes a spelling of a request and finishes with that request. -/
theorem finished_of_spelled {raws : List Bytes} {texts : List String} {request : Request}
    (hc : List.Forall₂ Carries raws texts) (hs : Spelled request texts) :
    ∃ before raw last, raws = before ++ [raw] ∧ Passes .kind before last ∧
      last.accept raw = .ok (.finished request) := by
  cases hs with
  | intro hletters hnumeral hpos hle hlacks =>
    obtain ⟨before, raw, rfl, hb, hend⟩ := Matching.forall₂_concat hc
    obtain ⟨kindRaw, others, hkind, ho, rfl⟩ := List.forall₂_cons_right_iff.mp hb
    obtain ⟨countRaw, lines, hcount, hlines, rfl⟩ := List.forall₂_cons_right_iff.mp ho
    have hbody : Passes (.body request.kind request.count []) lines
        (.body request.kind 0 request.records) := by
      refine passes_body_iff.mpr ⟨request.records, ?_, Nat.le_refl _, ?_⟩
      · exact forall₂_carriesRecord_iff.mpr ⟨hlines, hlacks⟩
      · rw [Request.count, Nat.sub_self, List.nil_append]
    have hfirst : Awaiting.kind.accept kindRaw = .ok (.next (.count request.kind)) :=
      Awaiting.accept_eq_ok_iff.mpr ⟨_, hkind, .kind hletters⟩
    have hsecond : (Awaiting.count request.kind).accept countRaw =
        .ok (.next (.body request.kind request.count [])) :=
      Awaiting.accept_eq_ok_iff.mpr ⟨_, hcount, .count hnumeral hpos hle⟩
    have hlast : (Awaiting.body request.kind 0 request.records).accept raw =
        .ok (.finished request) :=
      Awaiting.accept_eq_ok_iff.mpr ⟨_, hend, .done⟩
    exact ⟨_, raw, _, rfl, .cons hfirst (.cons hsecond hbody), hlast⟩

/-- Bytes are a complete request exactly if they begin with a spelling of it, and the request
is made of the bytes of that spelling. -/
theorem decode_eq_complete_iff {bytes : Bytes} {request : Request} {consumed : Nat} :
    decode bytes = .complete request consumed ↔
      ∃ raws texts rest, bytes = raws.flatMap terminate ++ rest ∧
        (∀ raw ∈ raws, lineFeed ∉ raw) ∧ List.Forall₂ Carries raws texts ∧
        Spelled request texts ∧ consumed = (raws.flatMap terminate).length := by
  rw [decode_eq_iff (by simp)]
  simp only [Awaiting.verdict?_eq_complete_iff]
  constructor
  · intro h
    obtain ⟨before, raw, rest, last, hbytes, hl, hb, hr, hsize⟩ := h
    obtain ⟨texts, hc, hs⟩ := spelled_of_finished hb hr
    exact ⟨before ++ [raw], texts, rest, hbytes, hl, hc, hs, hsize⟩
  · intro h
    obtain ⟨raws, texts, rest, hbytes, hl, hc, hs, hsize⟩ := h
    obtain ⟨before, raw, last, rfl, hb, hr⟩ := finished_of_spelled hc hs
    exact ⟨before, raw, rest, last, hbytes, hl, hb, hr, hsize⟩

/-- The reader accepts exactly the grammar. Its request and the number of its bytes are those of
three lines and one for each record at the front of the bytes. -/
theorem decode_eq_complete_iff_spelled (bytes : Bytes) (request : Request) (consumed : Nat) :
    decode bytes = .complete request consumed ↔
      consumed ≤ bytes.length ∧
        ∃ raws texts, bytes.take consumed = raws.flatMap terminate ∧
          raws.length = request.count + 3 ∧ (∀ raw ∈ raws, lineFeed ∉ raw) ∧
          List.Forall₂ Carries raws texts ∧ Spelled request texts := by
  rw [decode_eq_complete_iff]
  constructor
  · intro h
    obtain ⟨raws, texts, rest, rfl, hl, hc, hs, rfl⟩ := h
    refine ⟨?_, raws, texts, ?_, ?_, hl, hc, hs⟩
    · rw [List.length_append]
      exact Nat.le_add_right _ _
    · rw [List.take_left]
    · rw [hc.length_eq, hs.length]
  · intro h
    obtain ⟨hle, raws, texts, ht, -, hl, hc, hs⟩ := h
    refine ⟨raws, texts, bytes.drop consumed, ?_, hl, hc, hs, ?_⟩
    · rw [← ht, List.take_append_drop]
    · rw [← ht, List.length_take, Nat.min_eq_left hle]

/-- The greatest number of records, written out. -/
example : countLimit = 18446744073709551615 := by decide

end Wire

end AssessmentRequest

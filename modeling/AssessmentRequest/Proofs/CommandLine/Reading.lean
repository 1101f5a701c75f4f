import AssessmentRequest.Proofs.CommandLine.Recorded

/-!
# The reader of the command line

Words are taken one after the other, an occurrence may be two of them, and it is checked only
later. Between two occurrences nothing of this shows: what was taken so far, once it is settled, is
what its occurrences give one after the other.

Main statement: `parse_eq_ok_iff`, the reader accepts exactly the command lines that can be cut
into occurrences, and its result is what these give.
-/

namespace AssessmentRequest.CommandLine

open Outcome (bind_eq_ok_iff)

namespace Progress

variable {progress next : Progress} {arguments : Arguments} {option : Named} {word value : Bytes}

/-- The reader stands between two occurrences. -/
structure Ready (progress : Progress) : Prop where
  /-- No option is without its value. -/
  complete : ∀ option, progress.pending ≠ .option option none
  /-- A port has been met exactly if one is held in the end. -/
  port : ∀ {arguments}, progress.settle = .ok arguments →
    arguments.port.isSome = progress.hasPort

theorem takeFlag_eq_ok_iff {flag : Flag} :
    progress.takeFlag flag = .ok next ↔ ∃ before, progress.settle = .ok before ∧
      ∃ after, before.raise flag = .ok after ∧
        { progress with arguments := after, pending := .nothing } = next := by
  simp [takeFlag, bind_eq_ok_iff, pure, Except.pure]

theorem takeOption_some_eq_ok_iff :
    progress.takeOption option (some value) = .ok next ↔ ∃ before, progress.settle = .ok before ∧
      ∃ after, before.give option value = .ok after ∧
        { progress with arguments := after, pending := .nothing } = next := by
  simp [takeOption, bind_eq_ok_iff, pure, Except.pure]

theorem takeOption_none_eq_ok_iff :
    progress.takeOption option none = .ok next ↔ ∃ before, progress.settle = .ok before ∧
      { progress with arguments := before, pending := .option option none } = next := by
  simp [takeOption, bind_eq_ok_iff, pure, Except.pure]

/-- An option without a value awaits it. -/
theorem pending_of_takeOption (h : progress.takeOption option none = .ok next) :
    next.pending = .option option none ∧ next.onlyPort = progress.onlyPort := by
  obtain ⟨before, -, rfl⟩ := takeOption_none_eq_ok_iff.mp h
  exact ⟨rfl, rfl⟩

theorem takePort_eq_ok_iff :
    progress.takePort word = .ok next ↔ progress.hasPort = false ∧
      ∃ before, progress.settle = .ok before ∧
        { progress with arguments := before, pending := .port word, hasPort := true } = next := by
  cases hp : progress.hasPort <;> simp [takePort, hp, bind_eq_ok_iff, pure, Except.pure]

/-- The reader has gone past an occurrence. What is settled then is what was settled before, with
the occurrence added. -/
structure Past (progress : Progress) (occurrence : Occurrence) (next : Progress) : Prop where
  /-- It stands between two occurrences again. -/
  ready : Ready next
  /-- The end mark has not been met. -/
  onlyPort : next.onlyPort = progress.onlyPort
  /-- What is settled, or why nothing is. -/
  settle : ∃ before, progress.settle = .ok before ∧ next.settle = before.add occurrence

/-- Of what was settled before, the occurrence makes what is settled now. -/
theorem Past.settle_eq {occurrence : Occurrence} (h : Past progress occurrence next)
    {before : Arguments} (hs : progress.settle = .ok before) :
    next.settle = before.add occurrence := by
  obtain ⟨same, hsame, hsettle⟩ := h.settle
  cases hs.symm.trans hsame
  exact hsettle

/-- Giving an option leaves the port. -/
theorem port_of_give {before after : Arguments} (h : before.give option value = .ok after) :
    after.port = before.port := by
  rw [← Arguments.without_of_give h, Arguments.port_without]

/-- An option and its value in one word. -/
theorem past_of_attached (hp : progress.Ready)
    (h : progress.takeOption option (some value) = .ok next) :
    Past progress (.valued option value) next := by
  obtain ⟨before, hs, after, hgive, rfl⟩ := takeOption_some_eq_ok_iff.mp h
  refine ⟨⟨fun _ => Pending.noConfusion, ?_⟩, rfl, before, hs, hgive.symm⟩
  intro arguments ha
  cases ha
  rw [port_of_give hgive]
  exact hp.port hs

/-- An option and its value in two words. -/
theorem past_of_apart (hp : progress.Ready) {middle : Progress}
    (h : progress.takeOption option none = .ok middle) (hv : middle.takePlain value = .ok next) :
    Past progress (.valued option value) next := by
  obtain ⟨before, hs, rfl⟩ := takeOption_none_eq_ok_iff.mp h
  cases hv
  refine ⟨⟨fun _ he => (by cases he), ?_⟩, rfl, before, hs, rfl⟩
  intro arguments ha
  rw [port_of_give ha]
  exact hp.port hs

/-- The flag for a dry run. -/
theorem past_of_dryRun (hp : progress.Ready) (h : progress.takeFlag .dryRun = .ok next) :
    Past progress .dryRun next := by
  obtain ⟨before, hs, after, hraise, rfl⟩ := takeFlag_eq_ok_iff.mp h
  refine ⟨⟨fun _ => Pending.noConfusion, ?_⟩, rfl, before, hs, hraise.symm⟩
  intro arguments ha
  cases ha
  have hsame : after.port = before.port := by
    simp only [Arguments.raise] at hraise
    split at hraise <;> cases hraise
    rfl
  rw [hsame]
  exact hp.port hs

/-- A port, before or behind the end mark. -/
theorem past_of_port (hp : progress.Ready) (h : progress.takePort value = .ok next) :
    Past progress (.port value) next := by
  obtain ⟨hnone, before, hs, rfl⟩ := takePort_eq_ok_iff.mp h
  have hfree : before.port.isSome = false := (hp.port hs).trans hnone
  refine ⟨⟨fun _ => Pending.noConfusion, ?_⟩, rfl, before, hs, ?_⟩
  · intro arguments ha
    obtain ⟨port, -, he⟩ := bind_eq_ok_iff.mp ha
    cases he
    rfl
  · rw [Arguments.add, hfree]
    rfl

/-- Behind a settled occurrence a plain word is the port. -/
theorem takePlain_of_ready (hp : progress.Ready) :
    progress.takePlain word = progress.takePort word := by
  unfold takePlain
  split
  · next option hpending => exact absurd hpending (hp.complete option)
  · rfl

theorem run_singleton : [word].foldlM take progress = progress.take word := by
  simp

theorem run_cons_eq_ok_iff {words : List Bytes} :
    (word :: words).foldlM take progress = .ok next ↔
      ∃ middle, progress.take word = .ok middle ∧ words.foldlM take middle = .ok next := by
  rw [List.foldlM_cons, bind_eq_ok_iff]

/-- The words of an occurrence take the reader past it. -/
theorem past_of_spells {words : List Bytes} {occurrence : Occurrence}
    (hspells : Spells words occurrence) (hp : progress.Ready) (ho : progress.onlyPort = false)
    (hrun : words.foldlM take progress = .ok next) : Past progress occurrence next := by
  cases hspells with
  | dryRun =>
    rw [run_singleton, take_dryRun ho] at hrun
    exact past_of_dryRun hp hrun
  | attached ha =>
    rw [run_singleton, take_of_attaches ho ha] at hrun
    exact past_of_attached hp hrun
  | apart hopens hplain =>
    obtain ⟨middle, hm, hv⟩ := run_cons_eq_ok_iff.mp hrun
    rw [take_of_opens ho hopens] at hm
    have hmiddle := (pending_of_takeOption hm).2.trans ho
    rw [run_singleton, take_of_isPlain hmiddle hplain] at hv
    exact past_of_apart hp hm hv
  | port hdash =>
    rw [run_singleton, take_of_isPlain ho (.inr hdash), takePlain_of_ready hp] at hrun
    exact past_of_port hp hrun

/-- A port is taken if none has been given. -/
theorem exists_takePort (hp : progress.Ready) {before after : Arguments}
    (hs : progress.settle = .ok before) (ha : before.add (.port value) = .ok after) :
    ∃ next, progress.takePort value = .ok next := by
  have hfree : progress.hasPort = false := by
    rw [← hp.port hs]
    simp only [Arguments.add] at ha
    split at ha
    · cases ha
    · next hn => simpa using hn
  exact ⟨_, takePort_eq_ok_iff.mpr ⟨hfree, before, hs, rfl⟩⟩

/-- The words of an occurrence are taken if it can be added. -/
theorem exists_run_of_spells {words : List Bytes} {occurrence : Occurrence}
    (hspells : Spells words occurrence) (hp : progress.Ready) (ho : progress.onlyPort = false)
    {before after : Arguments} (hs : progress.settle = .ok before)
    (ha : before.add occurrence = .ok after) :
    ∃ next, words.foldlM take progress = .ok next := by
  cases hspells with
  | dryRun =>
    rw [run_singleton, take_dryRun ho]
    exact ⟨_, takeFlag_eq_ok_iff.mpr ⟨before, hs, after, ha, rfl⟩⟩
  | attached hattaches =>
    rw [run_singleton, take_of_attaches ho hattaches]
    exact ⟨_, takeOption_some_eq_ok_iff.mpr ⟨before, hs, after, ha, rfl⟩⟩
  | @apart word value option hopens hplain =>
    have hopen : progress.take word = .ok
        { progress with arguments := before, pending := .option option none } := by
      rw [take_of_opens ho hopens]
      exact takeOption_none_eq_ok_iff.mpr ⟨before, hs, rfl⟩
    refine ⟨{ progress with arguments := before, pending := .option option (some value) },
      run_cons_eq_ok_iff.mpr ⟨_, hopen, ?_⟩⟩
    rw [run_singleton]
    exact take_of_isPlain ho hplain
  | port hdash =>
    rw [run_singleton, take_of_isPlain ho (.inr hdash), takePlain_of_ready hp]
    exact exists_takePort hp hs ha

/-- The end mark changes nothing but what may follow. -/
theorem Ready.endMark (hp : progress.Ready) : Ready { progress with onlyPort := true } :=
  ⟨hp.complete, hp.port⟩

/-- A command line that can be cut into occurrences is read to its end if they can be added. -/
theorem run_of_cut {words : List Bytes} {occurrences : List Occurrence}
    (hcut : Cut words occurrences) (hp : progress.Ready) (ho : progress.onlyPort = false)
    {before after : Arguments} (hs : progress.settle = .ok before)
    (hall : occurrences.foldlM Arguments.add before = .ok after) :
    ∃ next, words.foldlM take progress = .ok next ∧ next.settle = .ok after := by
  induction hcut generalizing progress before with
  | nil =>
    cases hall
    exact ⟨progress, rfl, hs⟩
  | endMark =>
    cases hall
    exact ⟨_, run_cons_eq_ok_iff.mpr ⟨_, take_endMark ho, rfl⟩, hs⟩
  | portBehind value =>
    obtain ⟨last, hadd, hnil⟩ := bind_eq_ok_iff.mp hall
    cases hnil
    obtain ⟨next, hport⟩ := exists_takePort hp.endMark hs hadd
    have hsettle := (past_of_port hp.endMark hport).settle_eq hs
    refine ⟨next, run_cons_eq_ok_iff.mpr ⟨_, take_endMark ho, ?_⟩, hsettle.trans hadd⟩
    rw [run_singleton, take_of_onlyPort rfl]
    exact hport
  | cons hspells _ ih =>
    obtain ⟨between, hadd, hrest⟩ := bind_eq_ok_iff.mp hall
    obtain ⟨middle, hrun⟩ := exists_run_of_spells hspells hp ho hs hadd
    have hpast := past_of_spells hspells hp ho hrun
    obtain ⟨next, hnext, hend⟩ := ih hpast.ready (hpast.onlyPort.trans ho)
      ((hpast.settle_eq hs).trans hadd) hrest
    refine ⟨next, ?_, hend⟩
    rw [List.foldlM_append, bind_eq_ok_iff]
    exact ⟨middle, hrun, hnext⟩

/-- Behind the end mark there is one word at most, the port. -/
theorem run_of_onlyPort (hp : progress.Ready) (ho : progress.onlyPort = true)
    {words : List Bytes} (hrun : words.foldlM take progress = .ok next)
    {after : Arguments} (hend : next.settle = .ok after) :
    words = [] ∧ progress.settle = .ok after ∨
      ∃ value, words = [value] ∧ ∃ before, progress.settle = .ok before ∧
        before.add (.port value) = .ok after := by
  match words with
  | [] =>
    cases hrun
    exact .inl ⟨rfl, hend⟩
  | value :: rest =>
    obtain ⟨middle, hm, hrest⟩ := run_cons_eq_ok_iff.mp hrun
    rw [take_of_onlyPort ho] at hm
    match rest with
    | [] =>
      cases hrest
      obtain ⟨before, hs, hsettle⟩ := (past_of_port hp hm).settle
      exact .inr ⟨value, rfl, before, hs, hsettle.symm.trans hend⟩
    | second :: others =>
      -- A second word finds that a port has been met.
      obtain ⟨last, hl, -⟩ := run_cons_eq_ok_iff.mp hrest
      rw [take_of_onlyPort ((past_of_port hp hm).onlyPort.trans ho)] at hl
      have hmet := (takePort_eq_ok_iff.mp hl).1
      obtain ⟨-, before, -, rfl⟩ := takePort_eq_ok_iff.mp hm
      cases hmet

/-- Nothing is settled while an option awaits its value. -/
theorem settle_ne_ok (hpending : progress.pending = .option option none) (settled : Arguments) :
    progress.settle ≠ .ok settled := by
  intro hs
  rw [settle, hpending] at hs
  cases hs

/-- The word behind an option without its value is the value. -/
theorem isPlain_of_run (hpending : progress.pending = .option option none)
    (ho : progress.onlyPort = false) {words : List Bytes}
    (hrun : words.foldlM take progress = .ok next)
    (hend : next.settle = .ok arguments) :
    ∃ value rest, words = value :: rest ∧ IsPlain value := by
  have hnever := settle_ne_ok hpending
  match words with
  | [] =>
    cases hrun
    exact absurd hend (hnever _)
  | value :: rest =>
    obtain ⟨middle, hm, hrest⟩ := run_cons_eq_ok_iff.mp hrun
    refine ⟨value, rest, rfl, ?_⟩
    cases known_of_take ho hm with
    | plain hplain => exact hplain
    | endMark =>
      -- Neither the end of the words nor a port settles the option.
      rw [take_endMark ho] at hm
      cases hm
      match rest with
      | [] =>
        cases hrest
        exact absurd hend (hnever _)
      | word :: others =>
        obtain ⟨last, hl, -⟩ := run_cons_eq_ok_iff.mp hrest
        rw [take_of_onlyPort rfl] at hl
        obtain ⟨-, before, hs, -⟩ := takePort_eq_ok_iff.mp hl
        exact absurd hs (hnever before)
    | dryRun =>
      rw [take_dryRun ho] at hm
      obtain ⟨before, hs, -⟩ := takeFlag_eq_ok_iff.mp hm
      exact absurd hs (hnever before)
    | opening hopens =>
      rw [take_of_opens ho hopens] at hm
      obtain ⟨before, hs, -⟩ := takeOption_none_eq_ok_iff.mp hm
      exact absurd hs (hnever before)
    | attaching hattaches =>
      rw [take_of_attaches ho hattaches] at hm
      obtain ⟨before, hs, -⟩ := takeOption_some_eq_ok_iff.mp hm
      exact absurd hs (hnever before)

/-- A lone dash is no port. -/
theorem not_denotesPort_dash (port : UInt16) : ¬ DenotesPort [0x2D] port := by
  intro h
  obtain ⟨text, ht, hd⟩ := h
  have hdash : Utf8.encode "-" = [0x2D] := by decide
  obtain rfl := Utf8.encode_injective (hdash.trans ht)
  exact (Numeral.denotesInt_minus_iff.mp hd).1.nonempty rfl

/-- A port that can be added is no lone dash. -/
theorem ne_dash_of_add {before after : Arguments} (h : before.add (.port value) = .ok after) :
    value ≠ [0x2D] := by
  rintro rfl
  simp only [Arguments.add] at h
  split at h
  · cases h
  · obtain ⟨port, hport, -⟩ := bind_eq_ok_iff.mp h
    exact not_denotesPort_dash port (Arguments.readPort_eq_ok_iff.mp hport)

/-- The words can be cut into occurrences, and added to what is settled these give the
arguments. -/
def Leads (progress : Progress) (words : List Bytes) (arguments : Arguments) : Prop :=
  ∃ occurrences before, Cut words occurrences ∧ progress.settle = .ok before ∧
    occurrences.foldlM Arguments.add before = .ok arguments

theorem Leads.settles {words : List Bytes} (h : progress.Leads words arguments) :
    ∃ before, progress.settle = .ok before := by
  obtain ⟨-, before, -, hs, -⟩ := h
  exact ⟨before, hs⟩

/-- An occurrence may come in front. -/
theorem Past.leads {occurrence : Occurrence} (hpast : Past progress occurrence next)
    {taken rest : List Bytes} (hspells : Spells taken occurrence)
    (hrest : next.Leads rest arguments) : progress.Leads (taken ++ rest) arguments := by
  obtain ⟨occurrences, between, hcut, hs, hall⟩ := hrest
  obtain ⟨before, hbefore, hsettle⟩ := hpast.settle
  refine ⟨occurrence :: occurrences, before, .cons hspells hcut, hbefore, ?_⟩
  rw [List.foldlM_cons, bind_eq_ok_iff]
  exact ⟨between, hsettle.symm.trans hs, hall⟩

/-- What is read to its end can be cut. The words are gone through by occurrences, so the induction
is on their number. -/
theorem leads_of_run {words : List Bytes} {progress next : Progress} (hp : progress.Ready)
    (ho : progress.onlyPort = false) (hrun : words.foldlM take progress = .ok next)
    (hend : next.settle = .ok arguments) : progress.Leads words arguments := by
  match words with
  | [] =>
    cases hrun
    exact ⟨[], arguments, .nil, hend, rfl⟩
  | word :: rest =>
    obtain ⟨middle, hm, hrest⟩ := run_cons_eq_ok_iff.mp hrun
    cases known_of_take ho hm with
    | plain hplain =>
      rw [take_of_isPlain ho hplain, takePlain_of_ready hp] at hm
      have hpast := past_of_port hp hm
      have hleads := leads_of_run hpast.ready (hpast.onlyPort.trans ho) hrest hend
      -- A lone dash is taken as the port as well, but it never settles.
      obtain ⟨between, hs⟩ := hleads.settles
      obtain ⟨before, -, hsettle⟩ := hpast.settle
      have hdash := hplain.resolve_left (ne_dash_of_add (hsettle.symm.trans hs))
      exact hpast.leads (.port hdash) hleads
    | endMark =>
      rw [take_endMark ho] at hm
      cases hm
      rcases run_of_onlyPort hp.endMark rfl hrest hend with
        ⟨rfl, hs⟩ | ⟨value, rfl, before, hs, hadd⟩
      · exact ⟨[], arguments, .endMark, hs, rfl⟩
      · refine ⟨[.port value], before, .portBehind value, hs, ?_⟩
        rw [List.foldlM_cons, hadd]
        rfl
    | dryRun =>
      have hpast := past_of_spells .dryRun hp ho (run_singleton.trans hm)
      exact hpast.leads .dryRun (leads_of_run hpast.ready (hpast.onlyPort.trans ho) hrest hend)
    | opening hopens =>
      obtain ⟨hpending, hmiddle⟩ := pending_of_takeOption (take_of_opens ho hopens ▸ hm)
      obtain ⟨value, others, rfl, hplain⟩ :=
        isPlain_of_run hpending (hmiddle.trans ho) hrest hend
      obtain ⟨last, hl, hothers⟩ := run_cons_eq_ok_iff.mp hrest
      have hspells := Spells.apart hopens hplain
      have hpast := past_of_spells hspells hp ho
        (run_cons_eq_ok_iff.mpr ⟨middle, hm, run_singleton.trans hl⟩)
      exact hpast.leads hspells (leads_of_run hpast.ready (hpast.onlyPort.trans ho) hothers hend)
    | attaching hattaches =>
      have hspells := Spells.attached hattaches
      have hpast := past_of_spells hspells hp ho (run_singleton.trans hm)
      exact hpast.leads hspells (leads_of_run hpast.ready (hpast.onlyPort.trans ho) hrest hend)
termination_by words.length

/-- Nothing has been read in the beginning. -/
theorem ready_empty : Ready {} where
  complete _ := Pending.noConfusion
  port h := by
    cases h
    rfl

end Progress

/-- The command line is read exactly if it is a spelling of its result: if it can be cut into
occurrences, and these give the arguments and nothing else. -/
theorem parse_eq_ok_iff (words : List Bytes) (arguments : Arguments) :
    parse words = .ok arguments ↔
      ∃ occurrences, Cut words occurrences ∧ Recorded occurrences arguments := by
  rw [parse, bind_eq_ok_iff]
  constructor
  · intro h
    obtain ⟨progress, hrun, hend⟩ := h
    obtain ⟨occurrences, before, hcut, hs, hall⟩ :=
      Progress.leads_of_run Progress.ready_empty rfl hrun hend
    cases hs
    exact ⟨occurrences, hcut, foldlM_add_eq_ok_iff.mp hall⟩
  · intro h
    obtain ⟨occurrences, hcut, hrecorded⟩ := h
    exact Progress.run_of_cut hcut Progress.ready_empty rfl rfl (foldlM_add_eq_ok_iff.mpr hrecorded)

/-- A command line with the long name of every option. -/
def longNames : List Bytes :=
  ["--config", "conf.toml", "--host=::1", "--kind", "graph", "--identifier=a", "--identifier", "-",
    "--test-dir=", "--suite-id", "s", "--node-id=n=o", "--connect-timeout-ms", "+5",
    "--log-level=warn", "--dry-run", "8080"].map Utf8.encode

/-- What is given by long names. -/
def longGiven : List Occurrence :=
  [.valued .config (Utf8.encode "conf.toml"), .valued .host (Utf8.encode "::1"),
    .valued .kind (Utf8.encode "graph"), .valued .identifier (Utf8.encode "a"),
    .valued .identifier (Utf8.encode "-"), .valued .testDir [],
    .valued .suiteId (Utf8.encode "s"), .valued .nodeId (Utf8.encode "n=o"),
    .valued .connectTimeout (Utf8.encode "+5"), .valued .logLevel (Utf8.encode "warn"), .dryRun,
    .port (Utf8.encode "8080")]

/-- A command line with every letter that names an option with a value, and a port behind the end
mark. -/
def shortNames : List Bytes :=
  ["-c=a=b", "-k", "graph", "-ix", "-i-x", "-i", "-", "--", "+7"].map Utf8.encode

/-- What is given by letters. -/
def shortGiven : List Occurrence :=
  [.valued .config (Utf8.encode "a=b"), .valued .kind (Utf8.encode "graph"),
    .valued .identifier (Utf8.encode "x"), .valued .identifier (Utf8.encode "-x"),
    .valued .identifier (Utf8.encode "-"), .port (Utf8.encode "+7")]

/-- Every option is known by its long name, three of them by a letter as well. -/
theorem parse_eq_ok_iff_everyOption :
    (Cut longNames longGiven ∧ parse longNames = .ok
        { config := some (Utf8.encode "conf.toml"), host := some "::1", kind := some "graph",
          identifiers := ["a", "-"], testDir := some "", suiteId := some "s",
          nodeId := some "n=o", connectTimeout := some 5, logLevel := some "warn", dryRun := true,
          port := some 8080 }) ∧
      Cut shortNames shortGiven ∧ parse shortNames = .ok
        { config := some (Utf8.encode "a=b"), kind := some "graph", identifiers := ["x", "-x", "-"],
          port := some 7 } := by
  have hplain : ∀ word ∈ ["conf.toml", "graph", "-", "s", "+5"], IsPlain (Utf8.encode word) := by
    unfold IsPlain
    decide +kernel
  have hlong : Cut longNames longGiven := by
    refine .cons (.apart (.long .config) (hplain _ (by decide))) ?_
    refine .cons (.attached (.long .host _)) ?_
    refine .cons (.apart (.long .kind) (hplain _ (by decide))) ?_
    refine .cons (.attached (.long .identifier _)) ?_
    refine .cons (.apart (.long .identifier) (hplain _ (by decide))) ?_
    refine .cons (.attached (.long .testDir _)) ?_
    refine .cons (.apart (.long .suiteId) (hplain _ (by decide))) ?_
    refine .cons (.attached (.long .nodeId _)) ?_
    refine .cons (.apart (.long .connectTimeout) (hplain _ (by decide))) ?_
    refine .cons (.attached (.long .logLevel _)) ?_
    exact .cons .dryRun (.cons (.port (by decide)) .nil)
  have hconfig : Named.config.letter? = some 'c' := rfl
  have hkind : Named.kind.letter? = some 'k' := rfl
  have hidentifier : Named.identifier.letter? = some 'i' := rfl
  have hshort : Cut shortNames shortGiven := by
    refine .cons (.attached (.equals _ hconfig)) ?_
    refine .cons (.apart (.short hkind) (hplain _ (by decide))) ?_
    refine .cons (.attached (.short hidentifier (by decide) (by decide))) ?_
    refine .cons (.attached (.short hidentifier (by decide) (by decide))) ?_
    refine .cons (.apart (.short hidentifier) (hplain _ (by decide))) ?_
    exact .portBehind _
  exact ⟨⟨hlong, (parse_eq_ok_iff _ _).mpr ⟨_, hlong, foldlM_add_eq_ok_iff.mp (by decide +kernel)⟩⟩,
    hshort, (parse_eq_ok_iff _ _).mpr ⟨_, hshort, foldlM_add_eq_ok_iff.mp (by decide +kernel)⟩⟩

end AssessmentRequest.CommandLine

import Mathlib.Data.List.DropRight
import Mathlib.Data.List.Forall2
import AssessmentRequest.Record
import AssessmentRequest.WorkingDirectory
import AssessmentRequest.Proofs.Text.Ascii

/-!
# Paths of documents

The files of a document lie in the test directory, under the file name of the identifier with an
ending for each of the two; where no directory is given, they lie at the root. Cut at its last
slash, a path gives the directory without the slashes at its end and the file name. So the directory
and the file name are known from the path, and two documents share a path only where their
directories differ in slashes at the end and their identifiers in characters for which an underscore
stands.

Main statements: `trimsTo_iff`, `sanitize_eq_iff`, `liesIn_documentPath`, `documentPath_eq_iff`
and `ofDocument_paths`.
-/

namespace AssessmentRequest

/-- The path is a directory and a name with its last slash between them. -/
structure CutsAtLastSlash (path directory name : String) : Prop where
  /-- A slash joins the two. -/
  joined : path = directory ++ "/" ++ name
  /-- No slash comes after it. -/
  plain : '/' ∉ name.toList

/-- The path is another one with slashes at its end, and all of them are taken off. -/
structure TrimsTo (path trimmed : String) : Prop where
  /-- Nothing but slashes is taken off. -/
  slashes : ∃ count, path.toList = trimmed.toList ++ List.replicate count '/'
  /-- No slash is left. -/
  kept : trimmed.toList.getLast? ≠ some '/'

/-- The path goes the way of the directory and one name further, which nothing in the name can
change. Where no directory is given, a path in it begins at the root: the slash in front of the name
stays. -/
structure LiesIn (path testDir name : String) : Prop where
  /-- Cut at its last slash, the path is the directory without the slashes at its end, and the
  name. -/
  cut : ∀ directory last,
    CutsAtLastSlash path directory last ↔ TrimsTo testDir directory ∧ last = name
  /-- The names that the path is walked by are those of the directory and one more. -/
  walk : WorkingDirectory.names (Utf8.encode path) =
    WorkingDirectory.names (Utf8.encode testDir) ++ [Utf8.encode name]
  /-- The path begins at the root exactly if the directory does, or is not given. -/
  rooted : path.toList.head? = some '/' ↔ testDir = "" ∨ testDir.toList.head? = some '/'
  /-- The last name does not stay in place. -/
  notHere : name ≠ "."
  /-- The last name does not lead up. -/
  notUp : name ≠ ".."

/-- The characters for which an underscore stands in a file name. -/
def underscored : List Char := ['/', '(', ')', '"', ':', '_']

/-- The identifiers are as long as each other and differ only in characters for which an
underscore stands. -/
def SameFileName (left right : String) : Prop :=
  List.Forall₂ (fun one other => one = other ∨ one ∈ underscored ∧ other ∈ underscored)
    left.toList right.toList

/-- The path of a file in a directory, under the file name of an identifier and an ending. -/
def documentPath (testDir identifier ending : String) : String :=
  trimSlashes testDir ++ "/" ++ sanitize identifier ++ ending

theorem Record.ofDocument_metadataFile (identifier testDir suiteId nodeId : String) :
    (Record.ofDocument identifier testDir suiteId nodeId).metadataFile =
      documentPath testDir identifier ".xml" := rfl

theorem Record.ofDocument_scriptFile (identifier testDir suiteId nodeId : String) :
    (Record.ofDocument identifier testDir suiteId nodeId).scriptFile =
      documentPath testDir identifier ".sm" := rfl

/-- More slashes at the end do not change what is left when slashes are taken off there. -/
theorem rdropWhile_append_replicate (chars : List Char) (count : Nat) :
    (chars ++ List.replicate count '/').rdropWhile (· = '/') = chars.rdropWhile (· = '/') := by
  induction count with
  | zero => rw [List.replicate_zero, List.append_nil]
  | succ count ih =>
    rw [List.replicate_succ', ← List.append_assoc, List.rdropWhile_concat_pos _ _ _ (by decide), ih]

/-- The characters of a path without the slashes at its end. -/
theorem toList_trimSlashes (path : String) :
    (trimSlashes path).toList = path.toList.rdropWhile (· = '/') := by
  rw [trimSlashes, String.toList_ofList, List.rdropWhile]

/-- Exactly the slashes at the end are taken off a path. -/
theorem trimsTo_iff {path trimmed : String} :
    TrimsTo path trimmed ↔ trimmed = trimSlashes path := by
  constructor
  · intro h
    obtain ⟨count, hpath⟩ := h.slashes
    have hself : trimmed.toList.rdropWhile (· = '/') = trimmed.toList := by
      rw [List.rdropWhile_eq_self_iff]
      intro hne hlast
      have hslash := of_decide_eq_true hlast
      exact h.kept (by rw [List.getLast?_eq_some_getLast hne, hslash])
    apply String.toList_inj.mp
    rw [toList_trimSlashes, hpath, rdropWhile_append_replicate, hself]
  · rintro rfl
    constructor
    case slashes =>
      have hall : path.toList.rtakeWhile (· = '/') =
          List.replicate (path.toList.rtakeWhile (· = '/')).length '/' := by
        refine List.eq_replicate_iff.mpr ⟨rfl, fun char hm => ?_⟩
        have hslash := List.mem_rtakeWhile_imp hm
        exact of_decide_eq_true hslash
      refine ⟨(path.toList.rtakeWhile (· = '/')).length, ?_⟩
      rw [← hall, toList_trimSlashes, List.rdropWhile_append_rtakeWhile]
    case kept =>
      rw [toList_trimSlashes]
      intro hlast
      have hne : path.toList.rdropWhile (· = '/') ≠ [] := by
        intro hnil
        rw [hnil, List.getLast?_nil] at hlast
        contradiction
      rw [List.getLast?_eq_some_getLast hne] at hlast
      exact List.rdropWhile_last_not _ _ hne (decide_eq_true (Option.some.inj hlast))

/-- A name behind a separator that it does not hold is the last piece of what is split. -/
theorem splitOn_append_cons_of_not_mem {α : Type} [BEq α] [LawfulBEq α] {separator : α}
    {name : List α} (h : separator ∉ name) (before : List α) :
    (before ++ separator :: name).splitOn separator = before.splitOn separator ++ [name] := by
  rw [List.splitOn_append_cons_self, List.splitOn_eq_singleton h]

/-- A path is cut at its last slash in one way only. -/
theorem CutsAtLastSlash.unique {path directory name otherDirectory otherName : String}
    (h : CutsAtLastSlash path directory name)
    (ho : CutsAtLastSlash path otherDirectory otherName) :
    directory = otherDirectory ∧ name = otherName := by
  have hsplit : ∀ {before last : String}, CutsAtLastSlash path before last →
      path.toList.splitOn '/' = before.toList.splitOn '/' ++ [last.toList] := by
    intro before last hcut
    have hslash : "/".toList = ['/'] := rfl
    rw [hcut.joined, String.toList_append, String.toList_append, hslash, List.append_assoc,
      List.singleton_append, splitOn_append_cons_of_not_mem hcut.plain]
  -- the name is the last of the pieces between slashes, and the others join to the directory
  obtain ⟨hpieces, hname⟩ := List.append_inj' ((hsplit h).symm.trans (hsplit ho)) rfl
  have hdirectory := congrArg (fun pieces => ['/'].intercalate pieces) hpieces
  simp only [List.intercalate_splitOn] at hdirectory
  exact ⟨String.toList_inj.mp hdirectory, String.toList_inj.mp (List.singleton_inj.mp hname)⟩

/-- The character that stands for another one in a file name. -/
def fileNameChar (char : Char) : Char := if isUnsafeInFileName char then '_' else char

theorem toList_sanitize (identifier : String) :
    (sanitize identifier).toList = identifier.toList.map fileNameChar := by
  rw [sanitize, String.toList_ofList]
  rfl

/-- The unsafe characters and the underscore itself become an underscore. -/
theorem fileNameChar_of_mem {char : Char} (h : char ∈ underscored) : fileNameChar char = '_' := by
  simp only [underscored, List.mem_cons, List.not_mem_nil, or_false] at h
  rcases h with rfl | rfl | rfl | rfl | rfl | rfl <;> rfl

/-- Every other character stays as it is. -/
theorem fileNameChar_of_not_mem {char : Char} (h : char ∉ underscored) :
    fileNameChar char = char := by
  simp only [underscored, List.mem_cons, List.not_mem_nil, or_false, not_or] at h
  obtain ⟨hslash, hopen, hclose, hquote, hcolon, -⟩ := h
  simp only [fileNameChar, isUnsafeInFileName, hslash, hopen, hclose, hquote, hcolon, decide_false,
    Bool.or_self, Bool.false_eq_true, if_false]

/-- Two characters look the same in a file name only if they are the same or an underscore stands
for both. -/
theorem fileNameChar_eq_iff {one other : Char} :
    fileNameChar one = fileNameChar other ↔
      one = other ∨ one ∈ underscored ∧ other ∈ underscored := by
  have hunderscore : '_' ∈ underscored := by decide
  by_cases hone : one ∈ underscored
  · by_cases hother : other ∈ underscored
    · simp only [fileNameChar_of_mem, hone, hother, and_self, or_true]
    · have hne : '_' ≠ other := fun he => hother (he ▸ hunderscore)
      have hdiffer : one ≠ other := fun he => hother (he ▸ hone)
      simp only [fileNameChar_of_mem hone, fileNameChar_of_not_mem hother, hne, hdiffer, hother,
        and_false, or_self]
  · by_cases hother : other ∈ underscored
    · have hne : one ≠ '_' := fun he => hone (he ▸ hunderscore)
      have hdiffer : one ≠ other := fun he => hone (he ▸ hother)
      simp only [fileNameChar_of_not_mem hone, fileNameChar_of_mem hother, hne, hdiffer, hone,
        false_and, or_self]
    · simp only [fileNameChar_of_not_mem, hone, hother, not_false_eq_true, false_and, or_false]

/-- Identifiers have the same file name exactly if they differ in characters for which an
underscore stands only. -/
theorem sanitize_eq_iff {left right : String} :
    sanitize left = sanitize right ↔ SameFileName left right := by
  rw [← String.toList_inj, toList_sanitize, toList_sanitize, ← List.forall₂_eq_eq_eq,
    List.forall₂_map_left_iff, List.forall₂_map_right_iff, SameFileName]
  simp only [fileNameChar_eq_iff]

/-- A file name is its own file name. -/
theorem sanitize_sanitize (identifier : String) :
    sanitize (sanitize identifier) = sanitize identifier := by
  have hchar : ∀ char, fileNameChar (fileNameChar char) = fileNameChar char := by
    intro char
    by_cases h : char ∈ underscored
    · rw [fileNameChar_of_mem h]
      rfl
    · rw [fileNameChar_of_not_mem h, fileNameChar_of_not_mem h]
  apply String.toList_inj.mp
  rw [toList_sanitize, toList_sanitize, List.map_map]
  exact List.map_congr_left fun char _ => hchar char

/-- A file name has as many characters as the identifier. -/
theorem length_sanitize (identifier : String) :
    (sanitize identifier).length = identifier.length := by
  rw [← String.length_toList, toList_sanitize, List.length_map, String.length_toList]

/-- No slash is left in a file name. -/
theorem slash_not_mem_sanitize (identifier : String) : '/' ∉ (sanitize identifier).toList := by
  rw [toList_sanitize, List.mem_map]
  intro h
  obtain ⟨char, -, hslash⟩ := h
  by_cases hm : char ∈ underscored
  · rw [fileNameChar_of_mem hm] at hslash
    contradiction
  · rw [fileNameChar_of_not_mem hm] at hslash
    exact hm (hslash ▸ by decide)

namespace WorkingDirectory

/-- The names on both sides of a separator are those of the whole. -/
theorem names_append_separator (before after : Bytes) :
    names (before ++ separator :: after) = names before ++ names after := by
  rw [names, List.splitOn_append_cons_self, List.filter_append]
  rfl

/-- Separators alone hold no name. -/
theorem names_replicate (count : Nat) : names (List.replicate count separator) = [] := by
  induction count with
  | zero => rfl
  | succ count ih =>
    have hsplit := names_append_separator [] (List.replicate count separator)
    rw [List.replicate_succ, ← List.nil_append (separator :: _), hsplit, ih]
    rfl

/-- Separators at the end of a path add no name. -/
theorem names_append_replicate (path : Bytes) (count : Nat) :
    names (path ++ List.replicate count separator) = names path := by
  cases count with
  | zero => rw [List.replicate_zero, List.append_nil]
  | succ count =>
    rw [List.replicate_succ, names_append_separator, names_replicate, List.append_nil]

/-- A name without separators is the only one of a path. -/
theorem names_eq_singleton {name : Bytes} (hne : name ≠ []) (h : separator ∉ name) :
    names name = [name] := by
  have hempty : name.isEmpty = false := List.isEmpty_eq_false_iff.mpr hne
  rw [names, List.splitOn_eq_singleton h, List.filter_singleton, hempty]
  rfl

/-- A path is walked by the same names without the slashes at its end. -/
theorem names_of_trimsTo {path trimmed : String} (h : TrimsTo path trimmed) :
    names (Utf8.encode path) = names (Utf8.encode trimmed) := by
  obtain ⟨count, hpath⟩ := h.slashes
  have hbytes : Utf8.encode (String.ofList (List.replicate count '/')) =
      List.replicate count separator := by
    have hascii : ∀ char ∈ (String.ofList (List.replicate count '/')).toList, char.toNat < 128 := by
      intro char hm
      rw [String.toList_ofList] at hm
      rw [List.eq_of_mem_replicate hm]
      decide
    rw [Utf8.encode_eq_map hascii, String.toList_ofList, List.map_replicate]
    rfl
  have hjoined : path = trimmed ++ String.ofList (List.replicate count '/') := by
    apply String.toList_inj.mp
    rw [hpath, String.toList_append, String.toList_ofList]
  rw [hjoined, Utf8.encode_append, hbytes, names_append_replicate]

end WorkingDirectory

/-- A path in a directory begins at the root exactly if the directory does, or is not given. -/
theorem head?_joined_eq_slash_iff {testDir trimmed : String} (h : TrimsTo testDir trimmed)
    (name : String) :
    (trimmed ++ "/" ++ name).toList.head? = some '/' ↔
      testDir = "" ∨ testDir.toList.head? = some '/' := by
  obtain ⟨count, hslashes⟩ := h.slashes
  have hempty : testDir = "" ↔ testDir.toList = [] := String.toList_eq_nil_iff.symm
  rw [hempty, hslashes, String.toList_append, String.toList_append]
  cases trimmed.toList with
  | nil =>
    -- nothing but slashes has been given, or nothing at all
    cases count with
    | zero => simp
    | succ count => simp [List.replicate_succ]
  | cons char rest => simp

/-- A path made of a directory without slashes at its end and a name without slashes, of three
characters at least, goes the way of the directory and that name further. -/
theorem liesIn_of_joined {testDir name : String} (hslash : '/' ∉ name.toList)
    (hlength : 2 < name.length) : LiesIn (trimSlashes testDir ++ "/" ++ name) testDir name := by
  have htrims : TrimsTo testDir (trimSlashes testDir) := trimsTo_iff.mpr rfl
  have hcut : CutsAtLastSlash (trimSlashes testDir ++ "/" ++ name) (trimSlashes testDir) name :=
    ⟨rfl, hslash⟩
  constructor
  case cut =>
    intro directory last
    rw [trimsTo_iff]
    constructor
    · exact fun h => h.unique hcut
    · intro h
      obtain ⟨rfl, rfl⟩ := h
      exact hcut
  case walk =>
    have hbytes : WorkingDirectory.separator ∉ Utf8.encode name := by
      have hmem := Utf8.asciiByte_mem_encode_iff '/' (by decide) name
      exact fun hm => hslash (hmem.mp hm)
    have hne : Utf8.encode name ≠ [] := by
      intro hnil
      have hempty : name = "" := Utf8.encode_injective hnil
      rw [hempty] at hlength
      contradiction
    have hseparator : Utf8.encode "/" = [WorkingDirectory.separator] := by decide +kernel
    rw [Utf8.encode_append, Utf8.encode_append, hseparator, List.append_assoc,
      List.singleton_append, WorkingDirectory.names_append_separator,
      WorkingDirectory.names_eq_singleton hne hbytes, WorkingDirectory.names_of_trimsTo htrims]
  case rooted => exact head?_joined_eq_slash_iff htrims name
  case notHere =>
    rintro rfl
    contradiction
  case notUp =>
    rintro rfl
    contradiction

/-- The path of a document goes the way of the test directory and one name further, whatever the
identifier. -/
theorem liesIn_documentPath (testDir identifier : String) {ending : String}
    (hslash : '/' ∉ ending.toList) (hlength : 2 < ending.length) :
    LiesIn (documentPath testDir identifier ending) testDir (sanitize identifier ++ ending) := by
  have hname : '/' ∉ (sanitize identifier ++ ending).toList := by
    rw [String.toList_append, List.mem_append, not_or]
    exact ⟨slash_not_mem_sanitize identifier, hslash⟩
  have hlong : 2 < (sanitize identifier ++ ending).length := by
    rw [String.length_append]
    omega
  rw [documentPath, String.append_assoc]
  exact liesIn_of_joined hname hlong

/-- Slashes and dots of an identifier lead nowhere. -/
example : documentPath "docs//" "../(a)" ".xml" = "docs/..__a_.xml" := by decide +kernel

/-- Two documents have the same path for an ending exactly if their directories are the same
without slashes at the end, and their identifiers have the same file name. -/
theorem documentPath_eq_iff {testDir otherDir identifier otherIdentifier ending : String}
    (hslash : '/' ∉ ending.toList) (hlength : 2 < ending.length) :
    documentPath testDir identifier ending = documentPath otherDir otherIdentifier ending ↔
      trimSlashes testDir = trimSlashes otherDir ∧ SameFileName identifier otherIdentifier := by
  rw [← sanitize_eq_iff]
  constructor
  · intro h
    have hown : CutsAtLastSlash (documentPath testDir identifier ending) (trimSlashes testDir)
        (sanitize identifier ++ ending) :=
      ((liesIn_documentPath testDir identifier hslash hlength).cut _ _).mpr
        ⟨trimsTo_iff.mpr rfl, rfl⟩
    have hother : CutsAtLastSlash (documentPath testDir identifier ending) (trimSlashes otherDir)
        (sanitize otherIdentifier ++ ending) := by
      rw [h]
      exact ((liesIn_documentPath otherDir otherIdentifier hslash hlength).cut _ _).mpr
        ⟨trimsTo_iff.mpr rfl, rfl⟩
    obtain ⟨hdirectory, hname⟩ := hown.unique hother
    have hchars := congrArg String.toList hname
    rw [String.toList_append, String.toList_append] at hchars
    exact ⟨hdirectory, String.toList_inj.mp (List.append_cancel_right hchars)⟩
  · intro h
    rw [documentPath, documentPath, h.1, h.2]

/-- A path ends with the last character of its ending. -/
theorem getLast?_documentPath (testDir identifier : String) {ending : String} (h : ending ≠ "") :
    (documentPath testDir identifier ending).toList.getLast? = ending.toList.getLast? := by
  have hne : ending.toList ≠ [] := fun hnil => h (String.toList_inj.mp hnil)
  rw [documentPath, String.toList_append, List.getLast?_append_of_ne_nil _ hne]

/-- Both files of a document lie in the test directory, at the root where that is empty, under the
file name of the identifier with an ending for each, so that no identifier names a file outside of
it. File names are stable and as long as the identifiers. Two documents share the path of a file
exactly if their directories differ in slashes at the end only and their identifiers in characters
for which an underscore stands, and a metadata file never has the path of a script file. -/
theorem ofDocument_paths :
    (∀ testDir, ∃! directory, TrimsTo testDir directory) ∧
      (∀ identifier testDir suiteId nodeId,
        LiesIn (Record.ofDocument identifier testDir suiteId nodeId).metadataFile testDir
            (sanitize identifier ++ ".xml") ∧
          LiesIn (Record.ofDocument identifier testDir suiteId nodeId).scriptFile testDir
            (sanitize identifier ++ ".sm")) ∧
      (∀ identifier, sanitize (sanitize identifier) = sanitize identifier ∧
        (sanitize identifier).length = identifier.length) ∧
      ∀ identifier testDir suiteId nodeId otherIdentifier otherDir otherSuiteId otherNodeId,
        let one := Record.ofDocument identifier testDir suiteId nodeId
        let other := Record.ofDocument otherIdentifier otherDir otherSuiteId otherNodeId
        (one.metadataFile = other.metadataFile ↔
            (∃ directory, TrimsTo testDir directory ∧ TrimsTo otherDir directory) ∧
              SameFileName identifier otherIdentifier) ∧
          (one.scriptFile = other.scriptFile ↔
            (∃ directory, TrimsTo testDir directory ∧ TrimsTo otherDir directory) ∧
              SameFileName identifier otherIdentifier) ∧
          one.metadataFile ≠ other.scriptFile := by
  refine ⟨fun testDir => ?_, fun identifier testDir suiteId nodeId => ?_, fun identifier => ?_, ?_⟩
  · simp only [trimsTo_iff, existsUnique_eq]
  · exact ⟨liesIn_documentPath testDir identifier (by decide) (by decide),
      liesIn_documentPath testDir identifier (by decide) (by decide)⟩
  · exact ⟨sanitize_sanitize identifier, length_sanitize identifier⟩
  · intro identifier testDir suiteId nodeId otherIdentifier otherDir otherSuiteId otherNodeId
    have hdirectory : (∃ directory, TrimsTo testDir directory ∧ TrimsTo otherDir directory) ↔
        trimSlashes testDir = trimSlashes otherDir := by
      simp only [trimsTo_iff, exists_eq_left]
    rw [hdirectory]
    refine ⟨documentPath_eq_iff (by decide) (by decide),
      documentPath_eq_iff (by decide) (by decide), fun h => ?_⟩
    have hlast := congrArg (fun path => path.toList.getLast?) h
    simp only [Record.ofDocument_metadataFile, Record.ofDocument_scriptFile] at hlast
    rw [getLast?_documentPath _ _ (by decide), getLast?_documentPath _ _ (by decide)] at hlast
    exact absurd hlast (by decide)

end AssessmentRequest

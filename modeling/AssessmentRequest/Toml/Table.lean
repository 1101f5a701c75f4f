import AssessmentRequest.Toml.Text
import AssessmentRequest.Toml.Value

/-!
# Building TOML tables

Tables grow while a document is read. How a table came into being decides who may add to
it: a header opens a table once; a table only implied by the way to another header may
still be opened, and then moves behind the keys its parent has by that time; a table made
by a dotted key takes keys from dotted keys alone; a value is closed. A header that leads
through an array of tables means its last element.
-/

namespace AssessmentRequest.Toml

/-- How a table came into being. -/
inductive Origin where
  /-- By its own header, or as the document or an inline table itself. -/
  | declared
  /-- On the way to another header. -/
  | implied
  /-- By a dotted key. -/
  | dotted
  deriving Repr, DecidableEq

/-- What a key of a growing table holds. -/
inductive Draft where
  /-- A finished value. -/
  | value (value : Value)
  /-- A table that may still grow. -/
  | table (origin : Origin) (entries : List (String × Draft))
  /-- An array made by array headers, its last element apart. -/
  | tables (earlier : List (List (String × Draft))) (last : List (String × Draft))
  deriving Repr, Inhabited

/-- The entries of a growing table. -/
abbrev Drafts := List (String × Draft)

mutual

/-- The value that a draft has come to. -/
def Draft.finish : Draft → Value
  | .value value => value
  | .table _ entries => .table (finishEntries entries)
  | .tables earlier last => .array (finishTables earlier ++ [.table (finishEntries last)])

/-- The values that the entries of a table have come to. -/
def finishEntries : List (String × Draft) → Entries
  | [] => []
  | (name, draft) :: rest => (name, draft.finish) :: finishEntries rest

/-- The values that the elements of an array of tables have come to. -/
def finishTables : List (List (String × Draft)) → List Value
  | [] => []
  | entries :: rest => .table (finishEntries entries) :: finishTables rest

end

namespace Drafts

/-- What a key holds. -/
def get? (entries : Drafts) (name : String) : Option Draft :=
  (entries.find? fun entry => entry.1 = name).map Prod.snd

/-- Adds a key at the end. -/
def push (entries : Drafts) (name : String) (draft : Draft) : Drafts := entries ++ [(name, draft)]

/-- Replaces what a key holds, in its place. -/
def replace (entries : Drafts) (name : String) (draft : Draft) : Drafts :=
  entries.map fun entry => if entry.1 = name then (name, draft) else entry

/-- Takes a key out. -/
def erase (entries : Drafts) (name : String) : Drafts :=
  entries.filter fun entry => entry.1 ≠ name

end Drafts

/-- Changes the table that a way leads to, making the missing tables on it. The way is that
of a dotted key or that of a header; a dotted key may not pass a table with a header of its
own. -/
def alter (dotted : Bool) (change : Origin → Drafts → Option Drafts) :
    List String → Origin → Drafts → Option Drafts
  | [], origin, entries => change origin entries
  | name :: way, _, entries =>
    match Drafts.get? entries name with
    | none => do
      let origin := if dotted then Origin.dotted else Origin.implied
      let inner ← alter dotted change way origin []
      some (Drafts.push entries name (.table origin inner))
    | some (.table origin inner) =>
      if dotted ∧ origin = .declared then none
      else do
        let inner ← alter dotted change way origin inner
        some (Drafts.replace entries name (.table origin inner))
    | some (.tables earlier last) => do
      let last ← alter dotted change way .declared last
      some (Drafts.replace entries name (.tables earlier last))
    | some (.value _) => none

/-- Adds a new key. -/
def insertNew (name : String) (draft : Draft) (entries : Drafts) : Option Drafts :=
  match Drafts.get? entries name with
  | none => some (Drafts.push entries name draft)
  | some _ => none

/-- Gives a value to a path in a table. The last table on the way has to be one made by
dotted keys. -/
def assign (entries : Drafts) (path : Path) (value : Value) : Option Drafts :=
  if path.parents.isEmpty then insertNew path.last (.value value) entries
  else
    alter true
      (fun origin inner =>
        if origin = .dotted then insertNew path.last (.value value) inner else none)
      path.parents .declared entries

/-- Gives values to paths, in order. -/
def assignAll (entries : Drafts) (assignments : List (Path × Value)) : Option Drafts :=
  assignments.foldlM (fun entries (path, value) => assign entries path value) entries

/-- A header with the assignments under it. -/
structure Block where
  /-- The header opens an element of an array of tables. -/
  element : Bool
  /-- The path in the header. -/
  path : Path
  /-- The assignments up to the next header. -/
  assignments : List (Path × Value)

/-- Opens a table under a key of its parent. -/
def openTable (name : String) (assignments : List (Path × Value)) (parent : Drafts) :
    Option Drafts :=
  match Drafts.get? parent name with
  | none => do
    let inner ← assignAll [] assignments
    some (Drafts.push parent name (.table .declared inner))
  | some (.table .implied inner) => do
    let inner ← assignAll inner assignments
    some (Drafts.push (Drafts.erase parent name) name (.table .declared inner))
  | some _ => none

/-- Adds an element to the array of tables under a key of its parent. -/
def openElement (name : String) (assignments : List (Path × Value)) (parent : Drafts) :
    Option Drafts := do
  let element ← assignAll [] assignments
  match Drafts.get? parent name with
  | none => some (Drafts.push parent name (.tables [] element))
  | some (.tables earlier last) =>
    some (Drafts.replace parent name (.tables (earlier ++ [last]) element))
  | some _ => none

/-- Adds a header with its assignments to a document. -/
def addBlock (document : Drafts) (block : Block) : Option Drafts :=
  let enter := if block.element then openElement else openTable
  alter false (fun _ parent => enter block.path.last block.assignments parent)
    block.path.parents .declared document

/-- The table that a document denotes: the assignments before the first header, and the
headers with theirs. -/
def assemble (assignments : List (Path × Value)) (blocks : List Block) : Option Entries := do
  let top ← assignAll [] assignments
  let document ← blocks.foldlM addBlock top
  some (finishEntries document)

end AssessmentRequest.Toml

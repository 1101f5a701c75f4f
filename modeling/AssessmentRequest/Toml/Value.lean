import AssessmentRequest.Binary64

/-!
# TOML values

The tree that a TOML document denotes. A table keeps its keys in document order, each of
them once.
-/

namespace AssessmentRequest.Toml

/-- A value of a TOML document. -/
inductive Value where
  /-- A string. -/
  | string (text : String)
  /-- A 64-bit integer. -/
  | integer (value : Int)
  /-- A floating-point number. -/
  | float (value : Binary64)
  /-- `true` or `false`. -/
  | boolean (value : Bool)
  /-- A date, a time of day or both, as it is written. -/
  | moment (literal : String)
  /-- An array, also one made by array headers. -/
  | array (items : List Value)
  /-- A table, whichever way it is written. -/
  | table (entries : List (String × Value))
  deriving Repr, Inhabited

/-- The entries of a table, keys in document order. -/
abbrev Entries := List (String × Value)

end AssessmentRequest.Toml

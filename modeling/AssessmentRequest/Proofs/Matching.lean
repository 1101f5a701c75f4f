import Mathlib.Data.List.Forall2

/-!
# Lists that match

Two lists that are related element by element: what one more element at the end of one of them
means for the other, and which elements belong together.
-/

namespace AssessmentRequest.Matching

variable {α β : Type} {related : α → β → Prop}

/-- One more value is the last one that is held. -/
theorem forall₂_concat_iff {values : List α} {value : α} {held : List β} :
    List.Forall₂ related (values ++ [value]) held ↔
      (∃ last, related value last ∧ held.dropLast ++ [last] = held) ∧
        List.Forall₂ related values held.dropLast := by
  rw [← List.forall₂_reverse_iff, List.reverse_append, List.reverse_singleton,
    List.singleton_append, List.forall₂_cons_left_iff]
  constructor
  · intro h
    obtain ⟨last, before, hl, hb, he⟩ := h
    obtain rfl : held = before.reverse ++ [last] := by
      rw [← List.reverse_reverse held, he, List.reverse_cons]
    rw [List.dropLast_concat, ← List.forall₂_reverse_iff, List.reverse_reverse]
    exact ⟨⟨last, hl, rfl⟩, hb⟩
  · intro h
    obtain ⟨⟨last, hl, he⟩, hb⟩ := h
    rw [← he]
    exact ⟨last, held.dropLast.reverse, hl, List.forall₂_reverse_iff.mpr hb, by simp⟩

/-- One more value of a field that holds one at most is its only one. -/
theorem forall₂_concat_toList_iff {values : List α} {value : α} {field : Option β} :
    List.Forall₂ related (values ++ [value]) field.toList ↔
      (∃ held, related value held ∧ some held = field) ∧ values = [] := by
  rw [forall₂_concat_iff]
  cases field <;> simp

/-- What is related to a list with one more element at its end ends with an element related
to that one. -/
theorem forall₂_concat {left : List α} {right : List β} {last : β}
    (h : List.Forall₂ related left (right ++ [last])) :
    ∃ before first, left = before ++ [first] ∧ List.Forall₂ related before right ∧
      related first last := by
  induction right generalizing left with
  | nil =>
    obtain ⟨first, others, hr, ho, rfl⟩ := List.forall₂_cons_right_iff.mp h
    rw [List.forall₂_nil_right_iff] at ho
    exact ⟨[], first, by rw [ho, List.nil_append], .nil, hr⟩
  | cons head right ih =>
    obtain ⟨first, others, hr, ho, rfl⟩ := List.forall₂_cons_right_iff.mp h
    obtain ⟨before, final, rfl, hb, hl⟩ := ih ho
    exact ⟨first :: before, final, rfl, .cons hr hb, hl⟩

/-- Each element of the second list has one of the first. -/
theorem exists_of_mem_right {left : List α} {right : List β}
    (h : List.Forall₂ related left right) {found : β} (hm : found ∈ right) :
    ∃ other ∈ left, related other found := by
  induction h with
  | nil => contradiction
  | cons hfirst _ ih =>
    rcases List.mem_cons.mp hm with rfl | hm
    · exact ⟨_, List.mem_cons_self .., hfirst⟩
    · obtain ⟨other, ho, hr⟩ := ih hm
      exact ⟨other, List.mem_cons_of_mem _ ho, hr⟩

/-- Lists have the same image if their elements do. -/
theorem map_eq_map_of_forall₂ {γ : Type} {f : α → γ} {g : β → γ} {left : List α} {right : List β}
    (h : List.Forall₂ (fun one other => f one = g other) left right) :
    left.map f = right.map g := by
  rw [← List.forall₂_eq_eq_eq, List.forall₂_map_left_iff, List.forall₂_map_right_iff]
  exact h

end AssessmentRequest.Matching

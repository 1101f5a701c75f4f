import Mathlib.Data.List.Basic

/-!
# Positions in a list

What is first in a list has a position, and what comes before it are the elements in front of
that position.

Main statements: `exists_cut_iff`, `find?_eq_some_iff_take`, `findSome?_eq_some_iff_take` and
`append_cons_inj_of_not_mem`.
-/

namespace AssessmentRequest.Position

variable {α β : Type} {list : List α}

/-- A list can be cut in front of an element exactly if the element has a position, and the first
part is what stands before that position. -/
theorem exists_cut_iff {value : α} {p : List α → Prop} :
    (∃ before after, list = before ++ value :: after ∧ p before) ↔
      ∃ position, list[position]? = some value ∧ p (list.take position) := by
  constructor
  · intro h
    obtain ⟨before, after, rfl, hp⟩ := h
    refine ⟨before.length, by simp, ?_⟩
    rwa [List.take_left]
  · intro h
    obtain ⟨position, hvalue, hp⟩ := h
    obtain ⟨hlt, rfl⟩ := List.getElem?_eq_some_iff.mp hvalue
    refine ⟨list.take position, list.drop (position + 1), ?_, hp⟩
    rw [← List.drop_eq_getElem_cons hlt, List.take_append_drop]

/-- A search finds the element at the first position that holds one of those looked for. -/
theorem find?_eq_some_iff_take {p : α → Bool} {value : α} :
    list.find? p = some value ↔
      ∃ position, list[position]? = some value ∧ p value = true ∧
        ∀ earlier ∈ list.take position, p earlier = false := by
  have hcut := @exists_cut_iff _ list value
    fun part => p value = true ∧ ∀ earlier ∈ part, p earlier = false
  rw [List.find?_eq_some_iff_append, ← hcut]
  simp only [Bool.not_eq_true', exists_and_left, exists_and_right, and_left_comm]

/-- A search by a partial function gives what the function gives at the first position where it
is defined. -/
theorem findSome?_eq_some_iff_take {f : α → Option β} {result : β} :
    list.findSome? f = some result ↔
      ∃ position value, list[position]? = some value ∧ f value = some result ∧
        ∀ earlier ∈ list.take position, f earlier = none := by
  have hcut value := @exists_cut_iff _ list value
    fun part => f value = some result ∧ ∀ earlier ∈ part, f earlier = none
  rw [List.findSome?_eq_some_iff, exists_comm, @exists_comm Nat]
  exact exists_congr fun value => hcut value

/-- A list can be cut in one way at the first place where an element stands. -/
theorem append_cons_inj_of_not_mem {mark : α} {before before' after after' : List α}
    (hb : mark ∉ before) (hb' : mark ∉ before')
    (h : before ++ mark :: after = before' ++ mark :: after') :
    before = before' ∧ after = after' := by
  induction before generalizing before' with
  | nil =>
    cases before' with
    | nil => exact ⟨rfl, (List.cons.inj h).2⟩
    | cons first others =>
      obtain ⟨rfl, -⟩ := List.cons.inj h
      exact absurd (List.mem_cons_self ..) hb'
  | cons first others ih =>
    obtain ⟨hfirst, hothers⟩ := not_or.mp (List.mem_cons.not.mp hb)
    cases before' with
    | nil => exact absurd (List.cons.inj h).1.symm hfirst
    | cons first' others' =>
      obtain ⟨rfl, hrest⟩ := List.cons.inj h
      obtain ⟨rfl, rfl⟩ := ih hothers (List.not_mem_of_not_mem_cons hb') hrest
      exact ⟨rfl, rfl⟩

end AssessmentRequest.Position

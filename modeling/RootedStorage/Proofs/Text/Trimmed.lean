import Mathlib.Data.List.TakeWhile
import RootedStorage.Text.Blank

/-!
# What is left between white space

A text is white space, a core that neither begins nor ends with white space, and white space again.
Trimming the text gives this core and nothing else (`trims_iff`).
-/

namespace RootedStorage.Text

/-- The core of a text stands between white space, and neither begins nor ends with any. -/
structure Trims (s core : List Char) : Prop where
  around : ∃ before after, s = before ++ core ++ after ∧ (∀ c ∈ before, isBlank c = true) ∧
    ∀ c ∈ after, isBlank c = true
  head : ∀ c ∈ core.head?, isBlank c = false
  last : ∀ c ∈ core.getLast?, isBlank c = false

variable {s core : List Char}

/-- White space in front of a text that does not begin with any is all that is taken off its start. -/
theorem trimStart_append {before : List Char} (hbefore : ∀ c ∈ before, isBlank c = true)
    (hhead : ∀ c ∈ s.head?, isBlank c = false) : trimStart (before ++ s) = s := by
  rw [trimStart, List.dropWhile_append_of_pos hbefore]
  cases s with
  | nil => rfl
  | cons c s => exact List.dropWhile_cons_of_neg (by simp [hhead c rfl])

/-- What does not begin with white space is left when white space is taken off the start. -/
theorem trimStart_spec (s : List Char) :
    ∃ before, s = before ++ trimStart s ∧ (∀ c ∈ before, isBlank c = true) ∧
      ∀ c ∈ (trimStart s).head?, isBlank c = false := by
  refine ⟨s.takeWhile isBlank, List.takeWhile_append_dropWhile.symm, fun c hc => ?_, fun c hc => ?_⟩
  · exact List.mem_takeWhile_imp hc
  · have hnot := List.head?_dropWhile_not isBlank s
    rw [show s.dropWhile isBlank = trimStart s from rfl, hc] at hnot
    simpa using hnot

theorem trims_trim (s : List Char) : Trims s (trim s) := by
  obtain ⟨before, hbefore, hblank, hhead⟩ := trimStart_spec s
  obtain ⟨after, hafter, hblank', hlast⟩ := trimStart_spec (trimStart s).reverse
  have hcore : trimStart s = trim s ++ after.reverse := by
    rw [trim, ← List.reverse_append, ← hafter, List.reverse_reverse]
  refine ⟨⟨before, after.reverse, ?_, hblank, fun c hc => hblank' c (List.mem_reverse.1 hc)⟩,
    fun c hc => ?_, fun c hc => ?_⟩
  · rw [List.append_assoc, ← hcore]
    exact hbefore
  · refine hhead c ?_
    rw [hcore, List.head?_append, hc]
    rfl
  · rw [trim, List.getLast?_reverse] at hc
    exact hlast c hc

/-- White space on both sides is trimmed, and nothing of what stands between. -/
theorem Trims.eq_trim (h : Trims s core) : core = trim s := by
  obtain ⟨before, after, rfl, hbefore, hafter⟩ := h.around
  by_cases hempty : core = []
  · -- nothing but white space
    have hall : ∀ c ∈ before ++ after, isBlank c = true :=
      List.forall_mem_append.2 ⟨hbefore, hafter⟩
    have hstart := trimStart_append (s := []) hall (by simp)
    rw [List.append_nil] at hstart
    rw [hempty, List.append_nil, trim, hstart]
    rfl
  · have hhead : ∀ c ∈ (core ++ after).head?, isBlank c = false := by
      obtain ⟨first, rest, rfl⟩ := List.exists_cons_of_ne_nil hempty
      exact h.head
    have hlast : ∀ c ∈ core.reverse.head?, isBlank c = false := by
      rw [List.head?_reverse]
      exact h.last
    have hafter' : ∀ c ∈ after.reverse, isBlank c = true := fun c hc =>
      hafter c (List.mem_reverse.1 hc)
    rw [trim, List.append_assoc, trimStart_append hbefore hhead, List.reverse_append,
      trimStart_append hafter' hlast, List.reverse_reverse]

/-- Trimming a text gives its core. -/
theorem trims_iff : Trims s core ↔ core = trim s :=
  ⟨Trims.eq_trim, fun h => h ▸ trims_trim s⟩

end RootedStorage.Text

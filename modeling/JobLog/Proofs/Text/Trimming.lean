import JobLog.Text.Blank
import Mathlib.Data.List.DropRight
import Mathlib.Data.List.TakeWhile

/-!
# Trimming

`Trims s t` says what trimming is for: between blank characters stands `t`, which neither starts nor
ends with one. There is exactly one such `t`, and `trimChars` finds it (`trims_iff`).
-/

namespace JobLog.Text

variable {s t : List Char}

/-- The second text is the first one without the blank characters around it. -/
structure Trims (s t : List Char) : Prop where
  around : ∃ before after, s = before ++ t ++ after ∧
    (∀ c ∈ before, isBlank c = true) ∧ ∀ c ∈ after, isBlank c = true
  first : ∀ c ∈ t.head?, isBlank c = false
  last : ∀ c ∈ t.getLast?, isBlank c = false

/-- Nothing is dropped from a text that does not start with what is to be dropped. -/
theorem dropWhile_eq_self {p : Char → Bool} (h : ∀ c ∈ t.head?, p c = false) :
    t.dropWhile p = t := by
  cases t with
  | nil => rfl
  | cons c t => exact List.dropWhile_cons_of_neg (Bool.eq_false_iff.1 (h c rfl))

theorem trimChars_eq_rdropWhile :
    trimChars s = (s.dropWhile isBlank).rdropWhile isBlank :=
  rfl

theorem trims_trimChars : Trims s (trimChars s) := by
  have hinitial : trimChars s <+: s.dropWhile isBlank := List.rdropWhile_prefix isBlank _
  refine ⟨⟨s.takeWhile isBlank, (s.dropWhile isBlank).rtakeWhile isBlank, ?_, ?_, ?_⟩, ?_, ?_⟩
  · rw [List.append_assoc, trimChars_eq_rdropWhile, List.rdropWhile_append_rtakeWhile,
      List.takeWhile_append_dropWhile]
  · exact fun c hc => List.mem_takeWhile_imp hc
  · exact fun c hc => List.mem_rtakeWhile_imp hc
  · intro c hc
    obtain ⟨rest, hrest⟩ := hinitial
    have hhead : (s.dropWhile isBlank).head? = some c := by
      rw [← hrest, List.head?_append, Option.mem_def.1 hc, Option.some_or]
    have hstop := List.head?_dropWhile_not isBlank s
    rw [hhead] at hstop
    exact hstop
  · intro c hc
    have hlast : ((s.dropWhile isBlank).reverse.dropWhile isBlank).head? = some c := by
      rw [← List.getLast?_reverse]
      exact hc
    have hstop := List.head?_dropWhile_not isBlank (s.dropWhile isBlank).reverse
    rw [hlast] at hstop
    exact hstop

/-- Trimming finds the one text that is left without the blank characters around it. -/
theorem trims_iff : Trims s t ↔ t = trimChars s := by
  constructor
  · rintro ⟨⟨before, after, rfl, hbefore, hafter⟩, hfirst, hlast⟩
    have hend : (t ++ after).rdropWhile isBlank = t := by
      rw [List.rdropWhile, List.reverse_append,
        List.dropWhile_append_of_pos fun c hc => hafter c (List.mem_reverse.1 hc),
        dropWhile_eq_self (by rwa [List.head?_reverse]), List.reverse_reverse]
    rw [trimChars_eq_rdropWhile, List.append_assoc, List.dropWhile_append_of_pos hbefore]
    cases t with
    | nil =>
        rw [List.nil_append, List.dropWhile_eq_nil_iff.2 hafter]
        rfl
    | cons c t =>
        rw [dropWhile_eq_self (t := c :: t ++ after) hfirst]
        exact hend.symm
  · rintro rfl
    exact trims_trimChars

/-- Something is left of a text that is not all blank. -/
theorem Trims.ne_nil (h : Trims s t) {c : Char} (hc : c ∈ s) (hvisible : isBlank c = false) :
    t ≠ [] := by
  rintro rfl
  obtain ⟨before, after, rfl, hbefore, hafter⟩ := h.around
  rw [List.append_nil] at hc
  have hblank : isBlank c = true := (List.mem_append.1 hc).elim (hbefore c) (hafter c)
  rw [hvisible] at hblank
  cases hblank

theorem allBlank_eq_false_iff {s : String} :
    allBlank s = false ↔ ∃ c ∈ s.toList, isBlank c = false := by
  rw [allBlank, List.all_eq_false]
  simp only [Bool.not_eq_true]

end JobLog.Text

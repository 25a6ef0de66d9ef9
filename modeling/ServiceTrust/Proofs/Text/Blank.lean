/-
What trimming leaves of a text. It is the part between characters that are dropped, and it is the only one
whose own ends are kept (`trimWhile_eq_iff`), so what a text is without the white space around it can be said
without trimming it.
-/
import ServiceTrust.Text.Blank
import Mathlib.Data.List.DropRight

namespace ServiceTrust.Text

variable {p : Char → Bool} {cs core before after : List Char}

/-- Neither the first nor the last character is one that is dropped. -/
structure Trimmed (p : Char → Bool) (cs : List Char) : Prop where
  head : ∀ c, cs.head? = some c → p c = false
  last : ∀ c, cs.getLast? = some c → p c = false

theorem trimmed_iff : Trimmed p cs ↔ (cs.head?.all (! p ·) && cs.getLast?.all (! p ·)) = true := by
  simp only [Bool.and_eq_true, Option.all_eq_true, Bool.not_eq_true']
  exact ⟨fun h => ⟨h.head, h.last⟩, fun h => ⟨h.1, h.2⟩⟩

instance : Decidable (Trimmed p cs) := decidable_of_iff' _ trimmed_iff

/-- `core` stands in `cs` between characters that are dropped. -/
def Around (p : Char → Bool) (core cs : List Char) : Prop :=
  ∃ before after, cs = before ++ core ++ after ∧ (∀ c ∈ before, p c = true) ∧ ∀ c ∈ after, p c = true

theorem dropEndWhile_append (h : ∀ c ∈ after, p c = true) :
    dropEndWhile p (cs ++ after) = dropEndWhile p cs := by
  unfold dropEndWhile
  rw [List.reverse_append, List.dropWhile_append_of_pos fun c hc => h c (List.mem_reverse.mp hc)]

theorem trimWhile_of_around (h : Around p core cs) : trimWhile p cs = trimWhile p core := by
  obtain ⟨before, after, rfl, hbefore, hafter⟩ := h
  unfold trimWhile
  rw [List.append_assoc, List.dropWhile_append_of_pos hbefore, List.dropWhile_append]
  split
  next hnone =>
    -- of a text that is dropped as a whole nothing is left, nor of what comes after it
    rw [List.isEmpty_iff.mp hnone, List.dropWhile_eq_nil_iff.mpr hafter]
  next => exact dropEndWhile_append hafter

theorem trimWhile_of_trimmed (h : Trimmed p cs) : trimWhile p cs = cs := by
  have hhead : cs.dropWhile p = cs := by
    cases cs with
    | nil => rfl
    | cons c cs => rw [List.dropWhile_cons_of_neg (by simp [h.head c rfl])]
  have hlast : cs.rdropWhile p = cs :=
    List.rdropWhile_eq_self_iff.mpr fun hne => by simp [h.last _ (List.getLast?_eq_some_getLast hne)]
  unfold trimWhile
  rw [hhead]
  exact hlast

theorem trimmed_trimWhile (p : Char → Bool) (cs : List Char) : Trimmed p (trimWhile p cs) where
  head c hc := by
    have hprefix : trimWhile p cs <+: cs.dropWhile p := List.rdropWhile_prefix p _
    obtain ⟨rest, hrest⟩ := hprefix
    have hdropped : (cs.dropWhile p).head? = some c := by
      rw [← hrest, List.head?_append, hc]
      rfl
    have hnot := List.head?_dropWhile_not p cs
    rw [hdropped] at hnot
    exact hnot
  last c hc := by
    have hne : trimWhile p cs ≠ [] := by
      rintro hnil
      rw [hnil] at hc
      cases hc
    have hnot := List.rdropWhile_last_not p (cs.dropWhile p) hne
    rw [List.getLast?_eq_some_getLast hne, Option.some.injEq] at hc
    rw [← hc]
    exact Bool.eq_false_iff.mpr hnot

theorem around_trimWhile (p : Char → Bool) (cs : List Char) : Around p (trimWhile p cs) cs := by
  refine ⟨cs.takeWhile p, (cs.dropWhile p).rtakeWhile p, ?_, fun c hc => List.mem_takeWhile_imp hc, fun c hc =>
    List.mem_rtakeWhile_imp hc⟩
  have hend : trimWhile p cs ++ (cs.dropWhile p).rtakeWhile p = cs.dropWhile p :=
    List.rdropWhile_append_rtakeWhile ..
  rw [List.append_assoc, hend, List.takeWhile_append_dropWhile]

/-- What is left is the one part between dropped characters that neither begins nor ends with one. -/
theorem trimWhile_eq_iff : trimWhile p cs = core ↔ Trimmed p core ∧ Around p core cs := by
  constructor
  · rintro rfl
    exact ⟨trimmed_trimWhile p cs, around_trimWhile p cs⟩
  · rintro ⟨htrimmed, haround⟩
    rw [trimWhile_of_around haround, trimWhile_of_trimmed htrimmed]

end ServiceTrust.Text

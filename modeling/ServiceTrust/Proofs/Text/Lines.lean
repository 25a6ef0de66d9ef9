/-
What the lines of a text are. Each is the part up to a line end, and a last part without one is a line if it is
not empty; so every text has its lines in one way, and they are what splitting it yields (`linesFrom_eq_iff`).
-/
import ServiceTrust.Text.Lines
import Mathlib.Data.List.Basic

namespace ServiceTrust.Text

variable {line cs rest end_ : List Char} {ls : List (List Char)}

/-- None of the characters ends a line. -/
def Unbroken (cs : List Char) : Prop := ∀ c ∈ cs, isLineEnd c = false

instance : Decidable (Unbroken cs) := List.decidableBAll (isLineEnd · = false) cs

/-- What ends a line before `rest`: a carriage return with its newline, or a character that ends a line by
itself. -/
inductive Ends : List Char → List Char → Prop
  | pair {rest : List Char} : Ends ['\r', '\n'] rest
  | single {c : Char} {rest : List Char} (hend : isLineEnd c = true)
      (halone : c = '\r' → rest.head? ≠ some '\n') : Ends [c] rest

/-- The lines of a text, without their ends. -/
inductive Lined : List Char → List (List Char) → Prop
  | none : Lined [] []
  | last {line : List Char} (hne : line ≠ []) (hline : Unbroken line) : Lined line [line]
  | cons {line end_ rest : List Char} {ls : List (List Char)} (hline : Unbroken line) (hend : Ends end_ rest)
      (hrest : Lined rest ls) : Lined (line ++ end_ ++ rest) (line :: ls)

/-- A line end that is one whatever comes after it. -/
structure Newline where
  chars : List Char
  ends : ∀ rest, Ends chars rest

theorem Unbroken.append {more : List Char} (h : Unbroken cs) (hmore : Unbroken more) : Unbroken (cs ++ more) :=
  fun c hc => (List.mem_append.mp hc).elim (h c) (hmore c)

theorem linesFrom_cons {c : Char} (h : c = '\r' → cs.head? ≠ some '\n') :
    linesFrom line (c :: cs) =
      if isLineEnd c then line.reverse :: linesFrom [] cs else linesFrom (c :: line) cs := by
  rw [linesFrom]
  rintro cs' rfl rfl
  exact h rfl rfl

theorem linesFrom_append (h : Unbroken cs) : linesFrom line (cs ++ rest) = linesFrom (cs.reverse ++ line) rest := by
  induction cs generalizing line with
  | nil => rfl
  | cons c cs ih =>
    have hc : isLineEnd c = false := h c List.mem_cons_self
    have hreturn : c = '\r' → (cs ++ rest).head? ≠ some '\n' := by
      rintro rfl
      cases hc
    rw [List.cons_append, linesFrom_cons hreturn, hc, if_neg Bool.false_ne_true,
      ih fun c hmem => h c (List.mem_cons_of_mem _ hmem), List.reverse_cons, List.append_assoc,
      List.singleton_append]

theorem linesFrom_end (h : Ends end_ rest) : linesFrom line (end_ ++ rest) = line.reverse :: linesFrom [] rest := by
  cases h with
  | pair => rfl
  | single hend halone => rw [List.singleton_append, linesFrom_cons halone, if_pos hend]

theorem Lined.eq (h : Lined cs ls) : linesFrom [] cs = ls := by
  induction h with
  | none => rfl
  | @last line hne hline =>
    rw [← List.append_nil line, linesFrom_append hline, linesFrom, if_neg (by simpa using hne)]
    simp
  | cons hline hend _ ih =>
    rw [List.append_assoc, linesFrom_append hline, linesFrom_end hend, ih, List.append_nil, List.reverse_reverse]

/-- The accumulator holds the current line, which no line end has broken. -/
theorem lined_linesFrom (line cs : List Char) (h : Unbroken line) :
    Lined (line.reverse ++ cs) (linesFrom line cs) := by
  have hreverse {line : List Char} (h : Unbroken line) : Unbroken line.reverse := fun c hc =>
    h c (List.mem_reverse.mp hc)
  fun_induction linesFrom line cs with
  | case1 line hnone =>
    rw [List.isEmpty_iff.mp hnone]
    exact .none
  | case2 line hsome =>
    rw [List.append_nil]
    exact .last (by simpa using hsome) (hreverse h)
  | case3 line cs ih =>
    have hlined := Lined.cons (hreverse h) .pair (ih (by simp [Unbroken]))
    rwa [List.append_assoc] at hlined
  | case4 line c cs hpair hend ih =>
    have halone : c = '\r' → cs.head? ≠ some '\n' := by
      rintro rfl hhead
      obtain ⟨cs', rfl⟩ := List.head?_eq_some_iff.mp hhead
      exact hpair cs' rfl rfl
    have hlined := Lined.cons (hreverse h) (.single hend halone) (ih (by simp [Unbroken]))
    rwa [List.append_assoc] at hlined
  | case5 line c cs hpair hend ih =>
    have hlonger := ih fun c' hc' => by
      rcases List.mem_cons.mp hc' with rfl | hmem
      · exact Bool.eq_false_iff.mpr hend
      · exact h c' hmem
    rwa [List.reverse_cons, List.append_assoc] at hlonger

theorem linesFrom_eq_iff : linesFrom [] cs = ls ↔ Lined cs ls :=
  ⟨fun h => h ▸ lined_linesFrom [] cs (by simp [Unbroken]), Lined.eq⟩

theorem lines_eq_of_lined {s : String} (h : Lined s.toList ls) : lines s = ls.map String.ofList := by
  rw [lines, h.eq]

end ServiceTrust.Text

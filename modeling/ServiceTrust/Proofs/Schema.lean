/-
Opening a check that passed: a value that was put together from checks of the parts of a document is valid
exactly if every part is.
-/
import ServiceTrust.Proofs.Lookup
import ServiceTrust.Schema

namespace ServiceTrust.Schema

variable {α β : Type}

namespace Checked

variable {a : α} {b : β}

theorem map_eq_valid {f : α → β} {c : Checked α} : c.map f = .valid b ↔ ∃ a, c = .valid a ∧ b = f a := by
  cases c <;> simp [map, eq_comm]

theorem ap_eq_valid {f : Checked (α → β)} {c : Checked α} :
    f.ap c = .valid b ↔ ∃ g a, f = .valid g ∧ c = .valid a ∧ b = g a := by
  cases f <;> cases c <;> simp [ap, eq_comm]

theorem andThen_eq_valid {c : Checked α} {f : α → Checked β} :
    c.andThen f = .valid b ↔ ∃ a, c = .valid a ∧ f a = .valid b := by
  cases c <;> simp [andThen]

theorem inside_eq_valid {s : Step} {c : Checked α} : c.inside s = .valid a ↔ c = .valid a := by
  cases c <;> simp [inside]

/-- A check that passes gives a value. -/
theorem exists_of_isOk (c : Checked α) (h : (c.toExcept "").isOk = true) : ∃ a, c = .valid a := by
  cases c with
  | valid a => exact ⟨a, rfl⟩
  | invalid problems => cases h

end Checked

open Checked

/-- A field that may be missing is valid if it stands for a value where it is missing, or passes. -/
theorem fieldOr_eq_valid {name : String} {absent : Checked α} {check : Check α} {j : Json} {a : α} :
    fieldOr name absent check j = .valid a ↔
      j.get? name = none ∧ absent = .valid a ∨ ∃ v, j.get? name = some v ∧ check v = .valid a := by
  unfold fieldOr
  cases j.get? name <;> simp [inside_eq_valid]

theorem object_eq_valid {model : String} {check : Check α} {j : Json} {a : α} :
    object model check j = .valid a ↔ ∃ members, j = .obj members ∧ check j = .valid a := by
  cases j <;> simp [object, problem]

theorem oneOf_eq_valid {choices : List (String × α)} {j : Json} {a : α} :
    oneOf choices j = .valid a ↔ ∃ s, j = .text s ∧ choices.lookup s = some a := by
  cases j with
  | str t =>
    cases t with
    | unicode s => cases h : choices.lookup s <;> simp [oneOf, Json.text, problem, h]
    | unpaired codes => simp [oneOf, Json.text, problem]
  | _ => simp [oneOf, Json.text, problem]

theorem string_eq_valid {j : Json} {s : String} : string j = .valid s ↔ j = .text s := by
  cases j with
  | str t => cases t <;> simp [string, Json.text, problem]
  | _ => simp [string, Json.text, problem]

theorem nullable_valid {check : Check α} {j : Json} {a : Option α} (h : nullable check j = .valid a) :
    j = .null ∧ a = none ∨ ∃ b, check j = .valid b ∧ a = some b := by
  unfold nullable at h
  split at h
  · cases h
    exact .inl ⟨rfl, rfl⟩
  · exact .inr (map_eq_valid.mp h)

theorem tableName_eq_valid {name : Json.Text} {s : String} : tableName name = .valid s ↔ name = .unicode s := by
  cases name <;> simp [tableName, problem, inside]

theorem get?_obj_cons (key : Json.Text) (v : Json) (members : List (Json.Text × Json)) (name : String) :
    (Json.obj ((key, v) :: members)).get? name =
      if key = .unicode name then some v else (Json.obj members).get? name := by
  simp only [Json.get?, List.find?_cons]
  by_cases h : key = .unicode name <;> simp [h]

/-- A table has a row for a name exactly if the document has a member of that name, and it is what the check
makes of it. -/
theorem table_lookup {check : Check α} {j : Json} {rows : List (String × α)} (h : table check j = .valid rows)
    (name : String) : j.get? name = none ∧ rows.lookup name = none ∨
      ∃ v a, j.get? name = some v ∧ check v = .valid a ∧ rows.lookup name = some a := by
  obtain ⟨members, rfl⟩ : ∃ members, j = .obj members := by
    cases j with
    | obj members => exact ⟨members, rfl⟩
    | _ => cases h
  have hrows : tableOf check members = .valid rows := h
  clear h
  induction members generalizing rows with
  | nil =>
    cases hrows
    exact .inl ⟨rfl, rfl⟩
  | cons member members ih =>
    obtain ⟨first, v⟩ := member
    simp only [tableOf, ap_eq_valid, map_eq_valid, inside_eq_valid, tableName_eq_valid] at hrows
    obtain ⟨_, rest, ⟨_, ⟨_, a, ⟨key, rfl, rfl⟩, hcheck, rfl⟩, rfl⟩, hrest, rfl⟩ := hrows
    rw [get?_obj_cons, Lookup.lookup_cons]
    by_cases hkey : name = key
    · subst hkey
      exact .inr ⟨v, a, if_pos rfl, hcheck, if_pos rfl⟩
    · have hne : Json.Text.unicode key ≠ .unicode name := fun he => hkey (Json.Text.unicode.inj he).symm
      rw [if_neg hne, if_neg hkey]
      exact ih hrest

end ServiceTrust.Schema

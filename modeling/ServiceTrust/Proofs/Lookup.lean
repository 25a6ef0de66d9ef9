/-
Looking up in a list of bindings, of which the first one of a key counts: after what is bound to a key was
changed, and after the key was dropped.
-/
import Mathlib.Data.List.Basic

namespace ServiceTrust.Lookup

variable {κ ν : Type} [BEq κ] [LawfulBEq κ] [DecidableEq κ] {es : List (κ × ν)} {key k : κ} {v : ν}

theorem lookup_cons (e : κ × ν) (es : List (κ × ν)) :
    List.lookup k (e :: es) = if k = e.1 then some e.2 else es.lookup k := by
  obtain ⟨key, v⟩ := e
  by_cases h : k = key
  · simp [h]
  · rw [List.lookup_cons, beq_eq_false_iff_ne.mpr h, if_neg h]

omit [DecidableEq κ] in
theorem mem_of_lookup (h : es.lookup key = some v) : (key, v) ∈ es := by
  obtain ⟨before, after, rfl, -⟩ := List.lookup_eq_some_iff.mp h
  simp

/-- Where each key is bound once, the order of the bindings does not matter. -/
theorem lookup_of_perm {es' : List (κ × ν)} (h : es.Perm es') (hnodup : (es.map (·.1)).Nodup) :
    List.lookup key es' = es.lookup key := by
  induction h with
  | nil => rfl
  | cons e _ ih => rw [lookup_cons, lookup_cons, ih (List.nodup_cons.mp hnodup).2]
  | swap e f es =>
    rw [lookup_cons, lookup_cons, lookup_cons, lookup_cons]
    have hne : e.1 ≠ f.1 := by
      intro he
      exact (List.nodup_cons.mp hnodup).1 (by simp [he])
    by_cases hk : key = e.1 <;> by_cases hk' : key = f.1 <;> simp_all
  | trans h _ ih ih' => rw [ih' ((h.map _).nodup_iff.mp hnodup), ih hnodup]

/-- Where every key of a list is bound to what `f` gives for it. -/
theorem lookup_map_pair (keys : List κ) (f : κ → ν) :
    (keys.map fun key => (key, f key)).lookup k = if k ∈ keys then some (f k) else none := by
  induction keys with
  | nil => rfl
  | cons key keys ih =>
    rw [List.map_cons, lookup_cons, ih]
    by_cases hk : k = key <;> simp [hk]

theorem isSome_lookup : (es.lookup key).isSome = es.any (·.1 = key) := by
  induction es with
  | nil => rfl
  | cons e es ih =>
    rw [lookup_cons, List.any_cons, ← ih]
    by_cases h : key = e.1
    · simp [h]
    · simp [h, show e.1 ≠ key from fun he => h he.symm]

theorem lookup_map_set_self (h : (es.lookup key).isSome = true) :
    List.lookup key (es.map fun e => if e.1 = key then (key, v) else e) = some v := by
  induction es with
  | nil => cases h
  | cons e es ih =>
    rw [List.map_cons, lookup_cons]
    by_cases he : e.1 = key
    · simp [he]
    · have hne : ¬ key = e.1 := fun hk => he hk.symm
      rw [lookup_cons, if_neg hne] at h
      rw [if_neg he, if_neg hne]
      exact ih h

theorem lookup_map_set_of_ne (h : k ≠ key) :
    List.lookup k (es.map fun e => if e.1 = key then (key, v) else e) = es.lookup k := by
  induction es with
  | nil => rfl
  | cons e es ih =>
    rw [List.map_cons, lookup_cons, lookup_cons, ih]
    by_cases he : e.1 = key
    · rw [if_pos he, if_neg h, if_neg (he ▸ h)]
    · rw [if_neg he]

/-- Where a key is bound, what is bound to it is changed in place; otherwise a binding comes last. -/
theorem lookup_set : List.lookup k (if (es.lookup key).isSome then
      es.map fun e => if e.1 = key then (key, v) else e else es ++ [(key, v)]) =
    if k = key then some v else es.lookup k := by
  split
  next h =>
    split
    next hk => rw [hk, lookup_map_set_self h]
    next hk => exact lookup_map_set_of_ne hk
  next h =>
    rw [Bool.not_eq_true, Option.isSome_eq_false_iff, Option.isNone_iff_eq_none] at h
    rw [List.lookup_append, lookup_cons]
    split
    next hk => rw [hk, h, Option.none_or]
    next => exact Option.or_none

theorem lookup_filter_ne : (es.filter (·.1 ≠ key)).lookup k = if k = key then none else es.lookup k := by
  induction es with
  | nil => simp
  | cons e es ih =>
    rw [List.filter_cons, lookup_cons]
    by_cases he : e.1 = key
    · rw [if_neg (by simpa using he), ih, he]
      by_cases hk : k = key <;> simp only [hk, if_true, if_false]
    · have hne : ¬ key = e.1 := fun h => he h.symm
      rw [if_pos (by simpa using he), lookup_cons, ih]
      by_cases hk : k = key <;> simp [hk, hne]

end ServiceTrust.Lookup

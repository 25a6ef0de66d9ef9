import ServiceTrust.Text.Utf8

/-!
Named texts that are set around a run, in the order in which they were first set.
-/
namespace ServiceTrust

abbrev Environment := List (String × String)

namespace Environment

/-- Gives `name` the value `value`, where it already stands if it does. -/
def set (name : String) (value : α) : List (String × α) → List (String × α)
  | [] => [(name, value)]
  | (n, v) :: rest => if n = name then (n, value) :: rest else (n, v) :: set name value rest

def unset (name : String) (env : Environment) : Environment := env.filter (·.1 ≠ name)

/-- The assignments of a block in which a zero ends each of them; a block that is no text has
none. -/
def ofBlock (block : Bytes) : Environment :=
  match Text.decode block with
  | .error _ => []
  | .ok s =>
    (s.splitOn "\x00").filterMap fun assignment =>
      match assignment.splitOn "=" with
      | name :: value :: more => some (name, "=".intercalate (value :: more))
      | _ => none

@[simp] theorem lookup_set (name other : String) (value : α) (env : List (String × α)) :
    (set name value env).lookup other =
      if other = name then some value else env.lookup other := by
  induction env with
  | nil => by_cases h : other = name <;> grind [set]
  | cons e rest ih =>
    obtain ⟨n, v⟩ := e
    by_cases h : n = name <;> by_cases ho : other = n <;> grind [set]

end Environment

end ServiceTrust

/-!
Secrets in logs: all characters but the last ones are replaced by asterisks.
-/
namespace ServiceTrust

/-- The rest of `cs` from the place `start` on, counted from the end if it is negative. -/
def tailFrom (start : Int) (cs : List Char) : List Char :=
  if start < 0 then cs.drop (cs.length - start.natAbs) else cs.drop start.toNat

/-- `value` with its last `shown` characters in clear and an asterisk for each other one; a value
that has no more than those is hidden. With `shown` zero the whole value follows the asterisks. -/
def maskSecret (value : String) (shown : Int := 4) : String :=
  let cs := value.toList
  if cs.length ≤ shown then .ofList (List.replicate cs.length '*')
  else .ofList (List.replicate ((cs.length : Int) - shown).toNat '*' ++ tailFrom (-shown) cs)

end ServiceTrust

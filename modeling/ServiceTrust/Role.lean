/-!
The three uses that a service's certificates are issued for.
-/
namespace ServiceTrust

inductive Role where
  | server
  | peer
  | client
  deriving DecidableEq, Repr

namespace Role

def name : Role → String
  | server => "server"
  | peer => "peer"
  | client => "client"

/-- All roles, in the order in which they are processed. -/
def all : List Role := [server, peer, client]

def ofName? (s : String) : Option Role := all.find? fun r => r.name = s

/-- The small ASCII letter that has the same capital as `c`. The long s and the dotless i have
ASCII capitals. -/
def smallLetter (c : Char) : Char :=
  if c = 'ſ' then 's' else if c = 'ı' then 'i' else c.toLower

/-- The role of a name in letters of any case. -/
def ofAnyCase? (s : String) : Option Role := ofName? (.ofList (s.toList.map smallLetter))

theorem mem_all (r : Role) : r ∈ all := by cases r <;> decide

end Role

end ServiceTrust

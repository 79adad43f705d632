import GuildRoles.Role.Basic
import GuildRoles.UserId
import GuildRoles.Sorted

/-!
# Members of a role

A role's members are the users in both of its filters, or the users of one filter when the other
reference is the wildcard; a role with the wildcard on both sides has no meaning and is refused.
Filters are looked up by name, the first filter before the second; a filter that is not found
stops the resolution, so the second is not looked up when the first is missing.

Sets of users are strictly increasing lists in the order of ids.
-/

namespace GuildRoles

/-- A set of users, as a strictly increasing list of ids. -/
abbrev MemberSet := List UserId

/-- Why the members of a role cannot be resolved. -/
inductive MembershipError where
  | invalidRoleDefinition (role : String)
  | filterNotFound (name : String)
  deriving DecidableEq, Repr

namespace MembershipError

/-- The sentence of the fault. -/
def message : MembershipError → String
  | .invalidRoleDefinition r => "role `" ++ r ++ "` has a wildcard on both filters"
  | .filterNotFound n => "filter `" ++ n ++ "` doesn't exist"

end MembershipError

namespace Membership

/-- The members of a named filter, or the fault of a missing one. -/
def members (lookup : String → Option MemberSet) (name : String) :
    Except MembershipError MemberSet :=
  match lookup name with
  | some m => .ok m
  | none => .error (.filterNotFound name)

/-- The members of a role with the filter references `a` and `b`, filters found by `lookup`;
`role` names the role in a fault. -/
def resolve (role : String) (a b : FilterRef) (lookup : String → Option MemberSet) :
    Except MembershipError MemberSet :=
  match a, b with
  | .wildcard, .wildcard => .error (.invalidRoleDefinition role)
  | .named n, .wildcard => members lookup n
  | .wildcard, .named n => members lookup n
  | .named na, .named nb => do
    let ma ← members lookup na
    let mb ← members lookup nb
    pure (Sorted.inter ma mb)

/-- The names that `resolve` looks up, in order, when `found` tells which filters exist. -/
def lookups (a b : FilterRef) (found : String → Bool) : List String :=
  match a, b with
  | .wildcard, .wildcard => []
  | .named n, .wildcard => [n]
  | .wildcard, .named n => [n]
  | .named na, .named nb => if found na then [na, nb] else [na]

end Membership

/-- The members of a role, its filters found by `lookup`. -/
def Role.members (r : Role) (lookup : String → Option MemberSet) :
    Except MembershipError MemberSet :=
  Membership.resolve r.shortName r.filterA r.filterB lookup

end GuildRoles

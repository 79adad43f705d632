import GuildRoles.Membership

/-!
# The policy store

The policy of each namespace: filters (named sets of users with a description) and roles. The
store's operations keep the policy well formed:

* a filter has a non-empty name that is not `wildcard`, a non-empty description, and a member
  set; ids that are empty are never added to it;
* a role has a non-empty short name, unique in its namespace, and a non-empty display name; it
  names at least one filter, and every filter it names exists;
* a filter is removed only when it has no members and no role names it.

An operation that fails changes nothing a reader can see. Adding a filter or a role takes the
entry of its namespace before it checks the filter or role against the policy, creating an empty
policy for a namespace the store does not have; when that check fails, the empty entry stays
(`Store.Outcome`: what a call answers, with the store it leaves). Filters and roles are listed by
name and short name.
-/

namespace GuildRoles

/-- The name of a tenant of the store; every lookup is made within one. -/
abbrev Namespace := String

/-- A filter: a named set of users, with a description. -/
structure Filter where
  name : String
  description : String
  deriving DecidableEq, Repr

/-- Why the store refused an operation. -/
inductive StoreError where
  | missingField (field : String)
  | filterExists (name : String)
  | filterNotFound (name : String)
  | filterNotEmpty (name : String)
  | reservedFilterName (name : String)
  | filterInUse (filter role : String)
  | invalidRoleDefinition (role : String)
  | roleExists (role : String)
  | roleNotFound (role : String)
  | roleUpdate (e : RoleUpdateError)
  | backend (message : String)
  deriving DecidableEq, Repr

namespace StoreError

/-- The sentence of the fault. -/
def message : StoreError → String
  | .missingField f => f ++ " is required"
  | .filterExists n => "filter `" ++ n ++ "` already exists"
  | .filterNotFound n => "filter `" ++ n ++ "` doesn't exist"
  | .filterNotEmpty n => "filter `" ++ n ++ "` is not empty"
  | .reservedFilterName n => "`" ++ n ++ "` is a reserved filter name"
  | .filterInUse f r => "filter `" ++ f ++ "` is still used by role `" ++ r ++ "`"
  | .invalidRoleDefinition r => "role `" ++ r ++ "` needs at least one named filter"
  | .roleExists r => "role `" ++ r ++ "` already exists"
  | .roleNotFound r => "role `" ++ r ++ "` doesn't exist"
  | .roleUpdate e => e.message
  | .backend m => "policy store backend error: " ++ m

end StoreError

/-- The policy of one namespace. -/
structure Policy where
  filters : List (String × Filter) := []
  members : List (String × MemberSet) := []
  roles : List (String × Role) := []
  deriving DecidableEq, Repr

namespace Policy

/-- Whether a filter exists. -/
def hasFilter (p : Policy) (name : String) : Bool := (Sorted.get? name p.filters).isSome

/-- Fails unless a filter exists. -/
def ensureFilter (p : Policy) (name : String) : Except StoreError Unit :=
  if p.hasFilter name then .ok () else .error (.filterNotFound name)

/-- Fails unless a role names a filter and every filter it names exists. -/
def checkRole (p : Policy) (r : Role) : Except StoreError Unit :=
  if r.filterA.isWildcard && r.filterB.isWildcard then .error (.invalidRoleDefinition r.shortName)
  else r.referencedFilters.forM p.ensureFilter

end Policy

/-- The policy store: a policy per namespace. -/
structure Store where
  namespaces : List (Namespace × Policy) := []
  deriving DecidableEq, Repr

namespace Store

/-- What a call on the store answers, with the store it leaves behind. -/
structure Outcome (α : Type) where
  answer : Except StoreError α
  store : Store

/-- The store an accepted call leaves, or why the call was refused. -/
def Outcome.accepted (o : Outcome Unit) : Except StoreError Store := o.answer.map fun _ => o.store

/-- The policy of a namespace, if the store has one. -/
def policy? (s : Store) (ns : Namespace) : Option Policy := Sorted.get? ns s.namespaces

/-- The store with the policy of a namespace replaced. -/
def setPolicy (s : Store) (ns : Namespace) (p : Policy) : Store :=
  { s with namespaces := Sorted.put ns p s.namespaces }

/-- The store once a namespace has an entry: a namespace it does not have gets an empty policy. -/
def withEntry (s : Store) (ns : Namespace) : Store :=
  match s.policy? ns with
  | some _ => s
  | none => s.setPolicy ns {}

/-- Adds a filter with no members. The checks on the filter alone come first; a name that is taken
in the namespace is refused once the namespace's entry is taken, so the entry stays. -/
def addFilter (s : Store) (ns : Namespace) (f : Filter) : Outcome Unit :=
  if f.name.isEmpty then ⟨.error (.missingField "name"), s⟩
  else if f.description.isEmpty then ⟨.error (.missingField "description"), s⟩
  else if isReservedFilterName f.name then ⟨.error (.reservedFilterName f.name), s⟩
  else
    let p := (s.policy? ns).getD {}
    if p.hasFilter f.name then ⟨.error (.filterExists f.name), s.withEntry ns⟩
    else ⟨.ok (), s.setPolicy ns { p with members := Sorted.put f.name [] p.members,
                                          filters := Sorted.put f.name f p.filters }⟩

/-- Removes a filter that has no members and that no role names. -/
def removeFilter (s : Store) (ns : Namespace) (name : String) : Except StoreError Store :=
  match s.policy? ns with
  | none => .error (.filterNotFound name)
  | some p => do
    p.ensureFilter name
    if ((Sorted.get? name p.members).getD []).isEmpty = false then
      throw (.filterNotEmpty name)
    match p.roles.find? fun e => e.2.referencedFilters.contains name with
    | some e => throw (.filterInUse name e.2.shortName)
    | none =>
      pure (s.setPolicy ns { p with filters := Sorted.remove name p.filters,
                                    members := Sorted.remove name p.members })

/-- The filters of a namespace, by name. -/
def filters (s : Store) (ns : Namespace) : List Filter :=
  ((s.policy? ns).map fun p => p.filters.map Prod.snd).getD []

/-- Adds a role. The names of the role are checked first; a short name that is taken, or filters
that the policy does not have, are refused once the namespace's entry is taken, so the entry
stays. -/
def addRole (s : Store) (ns : Namespace) (r : Role) : Outcome Unit :=
  if r.shortName.isEmpty then ⟨.error (.missingField "short name"), s⟩
  else if r.name.isEmpty then ⟨.error (.missingField "name"), s⟩
  else
    let p := (s.policy? ns).getD {}
    if (Sorted.get? r.shortName p.roles).isSome then ⟨.error (.roleExists r.shortName), s.withEntry ns⟩
    else
      match p.checkRole r with
      | .error e => ⟨.error e, s.withEntry ns⟩
      | .ok () => ⟨.ok (), s.setPolicy ns { p with roles := Sorted.put r.shortName r p.roles }⟩

/-- Changes one attribute of a role; the stored role is replaced only by a valid one. -/
def updateRole (s : Store) (ns : Namespace) (short : String) (k : RoleKey) (v : String) :
    Except StoreError (Role × Store) :=
  match s.policy? ns with
  | none => .error (.roleNotFound short)
  | some p =>
    match Sorted.get? short p.roles with
    | none => .error (.roleNotFound short)
    | some r =>
      match r.update k v with
      | .error e => .error (.roleUpdate e)
      | .ok r' => do
        p.checkRole r'
        pure (r', s.setPolicy ns { p with roles := Sorted.put short r' p.roles })

/-- Removes a role. -/
def removeRole (s : Store) (ns : Namespace) (short : String) : Except StoreError Store :=
  match s.policy? ns with
  | none => .error (.roleNotFound short)
  | some p =>
    if (Sorted.get? short p.roles).isSome then
      .ok (s.setPolicy ns { p with roles := Sorted.remove short p.roles })
    else .error (.roleNotFound short)

/-- The roles of a namespace, by short name. -/
def listRoles (s : Store) (ns : Namespace) : List Role :=
  ((s.policy? ns).map fun p => p.roles.map Prod.snd).getD []

/-- The members of a filter; empty when the filter does not exist. -/
def filterMembers (s : Store) (ns : Namespace) (filter : String) : MemberSet :=
  ((s.policy? ns).bind fun p => Sorted.get? filter p.members).getD []

/-- Whether a filter exists. -/
def filterExists (s : Store) (ns : Namespace) (filter : String) : Bool :=
  ((s.policy? ns).map fun p => p.hasFilter filter).getD false

/-- The role of a short name. -/
def role (s : Store) (ns : Namespace) (short : String) : Except StoreError Role :=
  match (s.policy? ns).bind fun p => Sorted.get? short p.roles with
  | some r => .ok r
  | none => .error (.roleNotFound short)

/-- Changes the member set of an existing filter. -/
def changeMembers (s : Store) (ns : Namespace) (filter : String) (f : MemberSet → MemberSet) :
    Except StoreError Store :=
  match s.policy? ns with
  | none => .error (.filterNotFound filter)
  | some p => do
    p.ensureFilter filter
    pure (s.setPolicy ns { p with members := Sorted.alter filter [] f p.members })

/-- Adds users to a filter, leaving out empty ids. -/
def addMembers (s : Store) (ns : Namespace) (filter : String) (ids : List UserId) :
    Except StoreError Store :=
  s.changeMembers ns filter fun m => Sorted.union m (ids.filter fun u => !u.text.isEmpty)

/-- Removes users from a filter. -/
def removeMembers (s : Store) (ns : Namespace) (filter : String) (ids : List UserId) :
    Except StoreError Store :=
  s.changeMembers ns filter fun m => Sorted.diff m ids

/-- Removes every user from a filter, and tells how many there were. -/
def clearMembers (s : Store) (ns : Namespace) (filter : String) :
    Except StoreError (Nat × Store) := do
  let s' ← s.changeMembers ns filter fun _ => []
  pure ((s.filterMembers ns filter).length, s')

end Store

end GuildRoles

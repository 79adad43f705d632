import GuildRoles.Guild.Error
import GuildRoles.Role.Basic
import GuildRoles.Sorted

/-!
# The guild

A chat guild as the policy is synchronised onto it: roles under ids that the guild hands out,
members holding sets of role ids, and a log of the changes it accepted. Every guild starts with
the role `@everyone` under the id `0`. A role may be stale: it exists but is left out of role
listings, as a stale cache would leave it out.

For dry runs and tests the guild can be told to refuse calls with a given error, and role edits
can be slowed down by a delay. The administrative operations here change the guild directly and
are not logged.

Role ids are ordered as texts, members by the order of user ids; a role name is found under the
smallest id that carries it.
-/

namespace GuildRoles

/-- The name of the role every member of a guild holds. -/
def everyoneRole : String := "@everyone"

/-- The id of a role on the guild. -/
structure RoleId where
  text : String
  deriving DecidableEq, Repr

instance : Ord RoleId := ⟨fun a b => compare a.text b.text⟩

namespace RoleAttributes

/-- The attributes of a new role of a name. -/
def named (name : String) : RoleAttributes := ⟨name, 0, 0, 0, false, false, false⟩

end RoleAttributes

/-- A member of the guild as listings show it: the names of the roles they hold. -/
structure Member where
  userId : UserId
  username : String := ""
  roleNames : List String := []
  deriving DecidableEq, Repr

/-- A member as the guild keeps them: the ids of the roles they hold. -/
structure Seat where
  username : String
  roles : List RoleId
  deriving DecidableEq, Repr

/-- A change that the guild accepted. -/
inductive Mutation where
  | createRole (name : String)
  | deleteRole (name : String)
  | editRole (name : String)
  | setMemberRoles (user : UserId) (roles : List RoleId)
  deriving DecidableEq, Repr

/-- The errors the guild has been told to answer with. -/
structure Faults where
  listRoles : Option GuildError := none
  listMembers : Option GuildError := none
  create : List (String × GuildError) := []
  delete : List (String × GuildError) := []
  edit : List (String × GuildError) := []
  memberUpdate : List (UserId × GuildError) := []
  deriving DecidableEq, Repr

/-- The state of a guild. -/
structure Guild where
  nextRoleId : Nat := 0
  roles : List (RoleId × RoleAttributes) := [(⟨"0"⟩, RoleAttributes.named everyoneRole)]
  members : List (UserId × Seat) := []
  stale : List String := []
  faults : Faults := {}
  editDelay : Option Duration := none
  memberPageRequests : Nat := 0
  mutations : List Mutation := []
  deriving Repr

namespace Guild

/-- A guild that holds only `@everyone`. -/
def empty : Guild := {}

/-- The smallest id of a role of a name. -/
def roleId? (g : Guild) (name : String) : Option RoleId :=
  (g.roles.find? fun e => e.2.name == name).map Prod.fst

/-- Whether a role has an id. -/
def hasRole (g : Guild) (id : RoleId) : Bool := g.roles.any fun e => e.1.text == id.text

/-- Tries `fuel` ids after `next`, the first one no role has. -/
def freeId (g : Guild) : Nat → Nat → Nat × RoleId
  | 0, next => (next + 1, ⟨toString (next + 1)⟩)
  | fuel + 1, next =>
    let id : RoleId := ⟨toString (next + 1)⟩
    if g.hasRole id then g.freeId fuel (next + 1) else (next + 1, id)

/-- The next id after the last one handed out that no role has, and the counter after it; one
of the first `roles.length + 1` ids tried is free. -/
def allocateId (g : Guild) : Nat × RoleId := g.freeId g.roles.length g.nextRoleId

/-- A member as listings show them. -/
def view (g : Guild) (u : UserId) (s : Seat) : Member :=
  ⟨u, s.username, Sorted.ofList (s.roles.filterMap fun id => (Sorted.get? id g.roles).map (·.name))⟩

/-- Adds a member without roles, replacing one of the same id. -/
def addMember (g : Guild) (u : UserId) (username : String) : Guild :=
  { g with members := Sorted.put u ⟨username, []⟩ g.members }

/-- Gives a role of a name a fixed id, replacing the role that had it. -/
def createRoleWithId (g : Guild) (name : String) (id : RoleId) : Guild :=
  { g with roles := Sorted.put id (RoleAttributes.named name) g.roles }

/-- Gives a member the role of a name. -/
def assign (g : Guild) (u : UserId) (name : String) : Except GuildError Guild :=
  match g.roleId? name with
  | none => .error (.roleNotFound name)
  | some id =>
    match Sorted.get? u g.members with
    | none => .error (.memberNotFound u)
    | some s => .ok { g with members := Sorted.put u { s with roles := Sorted.insert id s.roles } g.members }

/-- Leaves a role of a name out of role listings. -/
def makeStale (g : Guild) (name : String) : Guild := { g with stale := Sorted.insert name g.stale }

/-- Answers every role listing with an error. -/
def failListRoles (g : Guild) (e : GuildError) : Guild :=
  { g with faults := { g.faults with listRoles := some e } }

/-- Answers every member listing and lookup with an error. -/
def failListMembers (g : Guild) (e : GuildError) : Guild :=
  { g with faults := { g.faults with listMembers := some e } }

/-- Answers the creation of a role of a name with an error. -/
def failCreate (g : Guild) (name : String) (e : GuildError) : Guild :=
  { g with faults := { g.faults with create := Sorted.put name e g.faults.create } }

/-- Answers the deletion of a role of a name with an error. -/
def failDelete (g : Guild) (name : String) (e : GuildError) : Guild :=
  { g with faults := { g.faults with delete := Sorted.put name e g.faults.delete } }

/-- Answers the edit of a role of a name with an error. -/
def failEdit (g : Guild) (name : String) (e : GuildError) : Guild :=
  { g with faults := { g.faults with edit := Sorted.put name e g.faults.edit } }

/-- Answers a change of a member's roles with an error. -/
def failMemberUpdate (g : Guild) (u : UserId) (e : GuildError) : Guild :=
  { g with faults := { g.faults with memberUpdate := Sorted.put u e g.faults.memberUpdate } }

/-- Forgets every error the guild was told to answer with. -/
def heal (g : Guild) : Guild := { g with faults := {} }

/-- Delays every role edit. -/
def delayEdits (g : Guild) (d : Duration) : Guild := { g with editDelay := some d }

/-- The names of all roles, stale ones included. -/
def roleNames (g : Guild) : List String := Sorted.ofList (g.roles.map (·.2.name))

/-- The attributes of the role of a name. -/
def roleAttributes? (g : Guild) (name : String) : Option RoleAttributes :=
  (g.roles.find? fun e => e.2.name == name).map Prod.snd

/-- The names of the roles a member holds, if they are in the guild. -/
def memberRoles? (g : Guild) (u : UserId) : Option (List String) :=
  (Sorted.get? u g.members).map fun s => (g.view u s).roleNames

/-- Every member, in the order of their ids. -/
def allMembers (g : Guild) : List Member := g.members.map fun e => g.view e.1 e.2

/-- Empties the log of accepted changes. -/
def clearMutations (g : Guild) : Guild := { g with mutations := [] }

end Guild

end GuildRoles

import GuildRoles.Guild.Basic

/-!
# Calls to the guild

The calls a client makes to the guild. Reads answer from the state; every change that succeeds
is logged as one `Mutation`, and a call that is refused changes nothing. The one exception is
the member page request, which the guild counts whether or not it answers.

* Role listings leave out stale roles; members are listed in pages of at most 1000, after a
  given id, in the order of ids.
* A new role gets the next free id; a name that any role has, a stale one too, is a clash.
* Deleting a role takes it from every member that held it.
* The roles given to a member must all exist.

An error the guild was told to answer with comes before every other check.
-/

namespace GuildRoles

namespace Guild

/-- The largest member page the guild hands out. -/
def maxPageSize : Nat := 1000

/-- Every role that is not stale, by id. -/
def listRoles (g : Guild) : Except GuildError (List (RoleId × String)) :=
  match g.faults.listRoles with
  | some e => .error e
  | none => .ok ((g.roles.filter fun e => !Sorted.contains e.2.name g.stale).map fun e => (e.1, e.2.name))

/-- The members with an id after `after`, at most `size` of them, in the order of ids. -/
def membersPage (g : Guild) (after : Option UserId) (size : Nat) : Except GuildError (List Member) :=
  match g.faults.listMembers with
  | some e => .error e
  | none =>
    if size = 0 ∨ size > maxPageSize then
      .error (.request ("page size must be between 1 and " ++ toString maxPageSize))
    else
      .ok (((g.members.filter fun e => after.all fun a => UserId.cmp e.1 a == .gt).take size).map
        fun e => g.view e.1 e.2)

/-- Counts a member page request. -/
def countPageRequest (g : Guild) : Guild := { g with memberPageRequests := g.memberPageRequests + 1 }

/-- A member page request: the page, and the guild that counted the request. -/
def listMembersPage (g : Guild) (after : Option UserId) (size : Nat) :
    Except GuildError (List Member) × Guild :=
  (g.countPageRequest.membersPage after size, g.countPageRequest)

/-- One member, if they are in the guild. -/
def member (g : Guild) (u : UserId) : Except GuildError (Option Member) :=
  match g.faults.listMembers with
  | some e => .error e
  | none => .ok ((Sorted.get? u g.members).map (g.view u))

/-- Creates a role of a name with the attributes of a new role. -/
def createRole (g : Guild) (name : String) : Except GuildError Guild :=
  match Sorted.get? name g.faults.create with
  | some e => .error e
  | none =>
    match g.roleId? name with
    | some _ => .error (.roleExists name)
    | none =>
      let (next, id) := g.allocateId
      .ok { g with nextRoleId := next, roles := Sorted.put id (RoleAttributes.named name) g.roles,
                   mutations := g.mutations ++ [.createRole name] }

/-- Deletes the role of a name. -/
def deleteRole (g : Guild) (name : String) : Except GuildError Guild :=
  match Sorted.get? name g.faults.delete with
  | some e => .error e
  | none =>
    match g.roleId? name with
    | none => .error (.roleNotFound name)
    | some id =>
      .ok { g with roles := Sorted.remove id g.roles,
                   members := g.members.map fun e => (e.1, { e.2 with roles := Sorted.erase id e.2.roles }),
                   stale := Sorted.erase name g.stale,
                   mutations := g.mutations ++ [.deleteRole name] }

/-- Overwrites the attributes of the role named by the attributes. -/
def editRole (g : Guild) (a : RoleAttributes) : Except GuildError Guild :=
  match Sorted.get? a.name g.faults.edit with
  | some e => .error e
  | none =>
    match g.roleId? a.name with
    | none => .error (.roleNotFound a.name)
    | some id =>
      .ok { g with roles := Sorted.put id a g.roles, mutations := g.mutations ++ [.editRole a.name] }

/-- Replaces the roles of a member. -/
def setMemberRoles (g : Guild) (u : UserId) (ids : List RoleId) : Except GuildError Guild :=
  match Sorted.get? u g.faults.memberUpdate with
  | some e => .error e
  | none =>
    match ids.find? fun id => !g.hasRole id with
    | some unknown => .error (.roleNotFound unknown.text)
    | none =>
      match Sorted.get? u g.members with
      | none => .error (.memberNotFound u)
      | some s =>
        .ok { g with members := Sorted.put u { s with roles := Sorted.ofList ids } g.members,
                     mutations := g.mutations ++ [.setMemberRoles u ids] }

end Guild

end GuildRoles

import GuildRoles.Guild.Session

/-!
# Plans

What a cycle means to change, worked out from the two sides before anything is changed.

The role plan compares the names of the policy's roles with the names of the guild's roles
(ignored ones already left out): names only in the policy are created, names only on the guild
deleted, names on both sides edited.

The member plan looks at each member of the guild. Of the roles they hold, the managed ones (the
policy's) are compared with the ones the policy wants for them; a member who has what they
should is left alone. Otherwise a member on the no-sync list is skipped; a member holding an
unmanaged role that the role map does not know is held back, since replacing their roles would
drop it; and every other member gets one update: the ids of their unmanaged roles and of the
roles the policy wants them to have. Names the policy wants that have no id are noted as
unmapped, and the policy's users who are not in the guild as absent.
-/

namespace GuildRoles

/-- The changes of role definitions a cycle makes. -/
structure RolePlan where
  create : List String
  delete : List String
  update : List String
  deriving DecidableEq, Repr

/-- The role plan of the policy's names against the guild's names. -/
def RolePlan.ofNames (policy guild : List String) : RolePlan :=
  ⟨Sorted.diff policy guild, Sorted.diff guild policy, Sorted.inter guild policy⟩

/-- Whether the two sets of names are equal already. -/
def RolePlan.isConverged (p : RolePlan) : Bool := p.create.isEmpty && p.delete.isEmpty

/-- The complete set of roles one member is to hold. -/
structure MemberUpdate where
  userId : UserId
  roleIds : List RoleId
  deriving DecidableEq, Repr

/-- The changes of member roles a cycle makes, and what it leaves alone. -/
structure MemberPlan where
  updates : List MemberUpdate := []
  skipped : List UserId := []
  absent : List UserId := []
  unmapped : List String := []
  held : List (UserId × List String) := []
  deriving DecidableEq, Repr

/-- The two sides of the member plan. -/
structure MembershipSnapshot where
  members : List Member
  roles : RoleMap
  managed : List String
  policy : List (UserId × List String)
  noSync : List UserId

namespace MemberPlan

/-- Adds what the plan does with one member. -/
def addMember (s : MembershipSnapshot) (plan : MemberPlan) (m : Member) : MemberPlan :=
  let desired := (Sorted.get? m.userId s.policy).getD []
  let observed := m.roleNames.filter fun n => Sorted.contains n s.managed
  if observed.length == desired.length && desired.all fun n => Sorted.contains n observed then plan
  else if Sorted.contains m.userId s.noSync then { plan with skipped := plan.skipped ++ [m.userId] }
  else
    let unmanaged := m.roleNames.filter fun n => !Sorted.contains n s.managed
    let missing := Sorted.ofList (unmanaged.filter fun n => (Sorted.get? n s.roles).isNone)
    if !missing.isEmpty then { plan with held := Sorted.put m.userId missing plan.held }
    else
      let kept := unmanaged.filterMap fun n => Sorted.get? n s.roles
      let wanted := desired.filterMap fun n => Sorted.get? n s.roles
      let unmapped := desired.filter fun n => (Sorted.get? n s.roles).isNone
      { plan with
        updates := plan.updates ++ [⟨m.userId, Sorted.ofList (kept ++ wanted)⟩],
        unmapped := Sorted.union plan.unmapped unmapped }

/-- The member plan of a snapshot. -/
def ofSnapshot (s : MembershipSnapshot) : MemberPlan :=
  let absent := (s.policy.map Prod.fst).filter fun u => !s.members.any fun m => m.userId == u
  s.members.foldl (addMember s) { absent := absent }

end MemberPlan

end GuildRoles

import GuildRoles.Store.Basic
import GuildRoles.Guild.Error

/-!
# Reports of a synchronisation

A cycle of synchronisation has two phases: role definitions, then membership. What it did is
kept in a report: the roles added, removed and updated on the guild, the members whose roles
were replaced or skipped, and the errors it carried on after. An error is fatal when it stops
its phase; a name clash on creation and the failed update of one member are not.

A guild error that stops a phase is fatal unless it is a name clash.
-/

namespace GuildRoles

/-- The two phases of a cycle. -/
inductive Phase where
  | roleDefinitions
  | membership
  deriving DecidableEq, Repr

/-- The name of a phase. -/
def Phase.text : Phase → String
  | .roleDefinitions => "Role Sync"
  | .membership => "Member Sync"

/-- An error met during a cycle. -/
inductive SyncError where
  | invalidRoleDefinition (role : String)
  | filterNotFound (name : String)
  | platformTransient (e : GuildError)
  | platformFatal (e : GuildError)
  | partialMemberUpdateFailure (user : UserId) (e : GuildError)
  | policyStore (e : StoreError)
  deriving DecidableEq, Repr

namespace SyncError

/-- The sentence of the error. -/
def message : SyncError → String
  | .invalidRoleDefinition r => "invalid definition of role `" ++ r ++ "`"
  | .filterNotFound n => "filter `" ++ n ++ "` doesn't exist"
  | .platformTransient e => e.message
  | .platformFatal e => e.message
  | .partialMemberUpdateFailure u e => "failed to update roles of member " ++ u.text ++ ": " ++ e.message
  | .policyStore e => e.message

/-- Whether the error stops its phase. -/
def isFatal : SyncError → Bool
  | .platformTransient _ => false
  | .partialMemberUpdateFailure _ _ => false
  | _ => true

/-- The error of a role whose members cannot be resolved. -/
def ofMembership : MembershipError → SyncError
  | .invalidRoleDefinition r => .invalidRoleDefinition r
  | .filterNotFound n => .filterNotFound n

/-- A guild error as an error of the cycle: a name clash lets the cycle carry on. -/
def ofGuild : GuildError → SyncError
  | .roleExists n => .platformTransient (.roleExists n)
  | e => .platformFatal e

end SyncError

/-- What a cycle did. -/
structure Report where
  addedRoles : List String := []
  removedRoles : List String := []
  updatedRoles : List String := []
  updatedUsers : List UserId := []
  skippedUsers : List UserId := []
  errors : List SyncError := []
  deriving DecidableEq, Repr

namespace Report

/-- Whether no role was created or deleted and no member updated; edits of roles do not
count. -/
def isNoop (r : Report) : Bool :=
  r.addedRoles.isEmpty && r.removedRoles.isEmpty && r.updatedUsers.isEmpty

/-- The one-line summary of a report. -/
def text (r : Report) : String :=
  "added " ++ toString r.addedRoles.length ++ " roles, removed " ++ toString r.removedRoles.length ++
    ", updated " ++ toString r.updatedRoles.length ++ ", updated " ++
    toString r.updatedUsers.length ++ " users, skipped " ++ toString r.skippedUsers.length ++
    ", " ++ toString r.errors.length ++ " errors"

end Report

/-- A cycle stopped by a fatal error, with what it did before. -/
structure CycleError where
  phase : Phase
  error : SyncError
  report : Report
  deriving DecidableEq, Repr

/-- The sentence of a stopped cycle. -/
def CycleError.message (e : CycleError) : String := e.phase.text ++ " failed: " ++ e.error.message

end GuildRoles

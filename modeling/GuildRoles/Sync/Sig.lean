import GuildRoles.Sync.Queue

/-!
# Special-interest groups

A special-interest group is a role with the `sig` flag; its second filter holds the group's
members. Users join and leave joinable groups on their own, and administrators add and remove
anyone. A command is refused when the role does not exist, is not a group, is not joinable (for
a join), or has the wildcard as its second filter, in that order; otherwise it changes the
member set and then queues a silent cycle for the namespace, so that the change reaches the
guild. The member set stays changed when the queue refuses the cycle.
-/

namespace GuildRoles

/-- The four commands on a group. -/
inductive SigAction where
  | join
  | leave
  | add
  | remove
  deriving DecidableEq, Repr

/-- Whether a command adds the user. -/
def SigAction.adds : SigAction → Bool
  | .join => true
  | .add => true
  | _ => false

/-- Why a command on a group was refused. -/
inductive SigError where
  | notASig (sig : String)
  | notJoinable (sig : String)
  | noMemberFilter (sig : String)
  | store (e : StoreError)
  | schedule (e : ScheduleError)
  deriving DecidableEq, Repr

/-- The sentence of the refusal. -/
def SigError.message : SigError → String
  | .notASig s => "`" ++ s ++ "` is not a SIG"
  | .notJoinable s => "`" ++ s ++ "` is not a joinable SIG, talk to an admin"
  | .noMemberFilter s => "SIG `" ++ s ++ "` has no member filter"
  | .store e => e.message
  | .schedule e => e.message

namespace Sig

variable {σ : Type} [PolicyView σ] [MemberEdits σ]

/-- The change of the member set that a command makes. -/
def change (store : σ) (a : SigAction) (ns sig : String) (u : UserId) : Except SigError σ := do
  let role ← (PolicyView.role store ns sig).mapError .store
  if !role.sig then throw (.notASig sig)
  if a == .join && !role.joinable then throw (.notJoinable sig)
  match role.filterB with
  | .wildcard => throw (.noMemberFilter sig)
  | .named f =>
    if a.adds then (MemberEdits.addMembers store ns f [u]).mapError .store
    else (MemberEdits.removeMembers store ns f [u]).mapError .store

/-- Runs a command: the store and queue after it, and the ticket of the queued cycle. -/
def run (store : σ) (q : Queue) (a : SigAction) (ns sig : String) (u : UserId) :
    σ × Queue × Except SigError Nat :=
  match change store a ns sig u with
  | .error e => (store, q, .error e)
  | .ok store' =>
    match q.enqueue { ns := ns, requester := some u.text, notify := false } with
    | .ok (t, q') => (store', q', .ok t)
    | .error e => (store', q, .error (.schedule e))

end Sig

end GuildRoles

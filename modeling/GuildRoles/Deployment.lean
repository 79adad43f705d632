import GuildRoles.Sync.Sig

/-!
# A deployment

Everything a synchroniser works with in one place: the policy store (behind a `FaultyStore`, so
that dry runs can fail its calls), the guild, the settings, and the queue of cycles. The
operations here run a cycle or one of its phases on the deployment, queue and run requests, and
run group commands; each gives the deployment after it.
-/

namespace GuildRoles

/-- A store, a guild, settings and a queue. -/
structure Deployment where
  store : FaultyStore := {}
  guild : Guild := Guild.empty
  config : SyncConfig := {}
  queue : Queue

namespace Deployment

/-- A deployment with an empty store, a new guild and an empty queue, or none when the settings
ask for a queue larger than any queue can be. -/
def new (c : SyncConfig) : Option Deployment :=
  (Queue.ofConfig c).map fun q => { config := c, queue := q }

/-- Runs a cycle for a namespace: the messages that reached the requester and the result. -/
def runSync (d : Deployment) (ns : Namespace) (notify : Bool) :
    (List Progress × Except CycleError Report) × Deployment :=
  let out := runCycle d.config d.store ns d.guild
  ((Progress.delivered notify out.sent, out.result), { d with guild := out.guild })

/-- Runs the role-definition phase on its own: the messages that reached the requester, the
error that stopped it and its report. -/
def syncRoles (d : Deployment) (ns : Namespace) (notify : Bool) :
    (List Progress × Option SyncError × Report) × Deployment :=
  let (e, r, g, sent) := runPhaseAlone (Cycle.syncRoles d.config d.store ns) d.guild
  ((Progress.delivered notify sent, e, r), { d with guild := g })

/-- Runs the membership phase on its own. -/
def syncMembers (d : Deployment) (ns : Namespace) (notify : Bool) :
    (List Progress × Option SyncError × Report) × Deployment :=
  let (e, r, g, sent) := runPhaseAlone (Cycle.syncMembers d.config d.store ns) d.guild
  ((Progress.delivered notify sent, e, r), { d with guild := g })

/-- Queues a request. -/
def enqueue (d : Deployment) (r : SyncRequest) : Except ScheduleError Nat × Deployment :=
  match d.queue.enqueue r with
  | .ok (t, q) => (.ok t, { d with queue := q })
  | .error e => (.error e, d)

/-- Runs or drops every queued request. -/
def drain (d : Deployment) : List Finished × Deployment :=
  let (done, g, q) := d.queue.drain d.config d.store d.guild
  (done, { d with guild := g, queue := q })

/-- Shuts the queue down. -/
def closeQueue (d : Deployment) : Deployment := { d with queue := d.queue.close }

/-- Runs a group command. -/
def sig (d : Deployment) (a : SigAction) (ns sig : String) (u : UserId) :
    Except SigError Nat × Deployment :=
  let (s, q, r) := Sig.run d.store d.queue a ns sig u
  (r, { d with store := s, queue := q })

end Deployment

end GuildRoles

import GuildRoles.Sync.Queue

/-!
# The scheduler

The queue of cycles as the scheduler runs it, one event at a time, among everything else that
can happen meanwhile: requests queued through any of the copies of the handle, copies made and
dropped, the scheduler started, or dropped before it starts, its cancellation, and the steps of
its loop.

The queue is a bounded channel. It is first in, first out; it refuses a request once its
receiving end is gone, and else when `capacity` requests wait in it; a request leaves it when
the loop takes it, which frees its place at once, not when its cycle ends. Its receiving end
yields every waiting request before it reports that no handle is left.

The loop, at its top, looks first at its cancellation and stops; else it takes the first
waiting request and runs its cycle; else, when no handle is left, it stops; else it keeps
waiting. A cycle that runs when the scheduler is cancelled runs to its end first. A cycle's
messages and then its result go to the requester, whose receiver closes once the request is
answered, as it does when the request is dropped unanswered: the requests still waiting when
the loop stops, or when the scheduler is dropped before it starts, go with the queue.
-/

namespace GuildRoles

/-- Where a scheduler is in its life. -/
inductive Scheduler.Status where
  /-- Made, with its loop not yet started. -/
  | unstarted
  /-- At the top of its loop. -/
  | waiting
  /-- Running the cycle of a request, taken from the queue with its ticket. -/
  | running (ticket : Nat) (request : SyncRequest)
  /-- Out of its loop. -/
  | stopped
  /-- Dropped before it was started. -/
  | dropped
  deriving DecidableEq, Repr

/-- The receiver handed out for an accepted request, with the request it was handed out for and
the messages it got so far. -/
structure Scheduler.Receiver where
  request : SyncRequest
  heard : List Progress := []

/-- A scheduler with its queue, the copies of its handle, its cancellation, and the receivers of
the requests it accepted, by ticket. -/
structure Scheduler where
  queue : Queue
  handles : Nat := 1
  status : Scheduler.Status := .unstarted
  cancelled : Bool := false
  receivers : List Scheduler.Receiver := []
  /-- The requests whose cycles started, with their tickets, in the order they started: what the
  scheduler logs as it runs them. -/
  started : List (Nat × SyncRequest) := []
  guild : Guild

namespace Scheduler

/-- Whether the scheduler has let go of the receiving end of its queue. -/
def Status.gone : Status → Bool
  | .stopped | .dropped => true
  | _ => false

/-- The ticket whose cycle runs, if any. -/
def Status.runningTicket? : Status → Option Nat
  | .running t _ => some t
  | _ => none

/-- A new scheduler with one handle, or none when the settings ask for more places than a queue
can have. -/
def new (c : SyncConfig) (g : Guild) : Option Scheduler :=
  (Queue.ofConfig c).map fun q => { queue := q, guild := g }

/-- The requests whose cycles ran to their end, in the order they ran. -/
def answered (s : Scheduler) : List (Nat × SyncRequest) :=
  match s.status with
  | .running _ _ => s.started.dropLast
  | _ => s.started

/-- Whether the receiver of a ticket is closed: it is once no sending end of it is left, which is
so once its request neither waits in the queue nor runs. -/
def closed (s : Scheduler) (t : Nat) : Bool :=
  !(s.queue.pending.any fun e => e.1 == t) && s.status.runningTicket? != some t

/-- Queues a request through a handle: an accepted request gets its ticket and a receiver. -/
def enqueue (s : Scheduler) (r : SyncRequest) : Except ScheduleError Nat × Scheduler :=
  match s.queue.enqueue r with
  | .ok (t, q) => (.ok t, { s with queue := q, receivers := s.receivers ++ [{ request := r }] })
  | .error e => (.error e, s)

/-- Lets go of the receiving end of the queue: the requests waiting in it go with it, and later
requests are refused. -/
def letGo (s : Scheduler) (status : Status) : Scheduler :=
  { s with status := status, queue := { s.queue.close with pending := [] } }

/-- Starts the loop of a scheduler not yet started. -/
def start (s : Scheduler) : Scheduler :=
  match s.status with
  | .unstarted => { s with status := .waiting }
  | _ => s

/-- Drops a scheduler not yet started. -/
def drop (s : Scheduler) : Scheduler :=
  match s.status with
  | .unstarted => s.letGo .dropped
  | _ => s

/-- One pass of the loop at its top: a cancellation comes first; then the first waiting request,
whose cycle starts; then, with no handle left, the end of the loop; else it keeps waiting. -/
def poll (s : Scheduler) : Scheduler :=
  match s.status with
  | .waiting =>
    if s.cancelled then s.letGo .stopped
    else
      match s.queue.pending with
      | (t, r) :: rest =>
        { s with status := .running t r, queue := { s.queue with pending := rest },
                 started := s.started ++ [(t, r)] }
      | [] => if s.handles = 0 then s.letGo .stopped else s
  | _ => s

/-- The running cycle ends: its messages and then its result go to its requester, and the loop is
back at its top. -/
def finish {σ : Type} [PolicyView σ] (c : SyncConfig) (store : σ) (s : Scheduler) : Scheduler :=
  match s.status with
  | .running t r =>
    let out := runCycle c store r.ns s.guild
    { s with status := .waiting, guild := out.guild,
             receivers := s.receivers.modify t fun rc =>
               { rc with heard := rc.heard ++ Progress.delivered r.notify out.sent ++ [.finished out.result] } }
  | _ => s

/-- What can happen to a scheduler. -/
inductive Event where
  /-- A request is queued through a handle. -/
  | enqueue (r : SyncRequest)
  /-- A handle is copied. -/
  | cloneHandle
  /-- A handle is dropped. -/
  | dropHandle
  /-- The loop is started. -/
  | start
  /-- The scheduler is dropped before it starts. -/
  | drop
  /-- The scheduler's cancellation token is cancelled. -/
  | cancel
  /-- The loop takes a step at its top. -/
  | poll
  /-- The running cycle comes to its end. -/
  | finish
  deriving DecidableEq, Repr

/-- What an event does; one that cannot happen in a state (a request queued, or a handle copied,
with no handle left; the loop stepped where it does not stand) leaves it as it is. -/
def step {σ : Type} [PolicyView σ] (c : SyncConfig) (store : σ) (s : Scheduler) : Event → Scheduler
  | .enqueue r => if 0 < s.handles then (s.enqueue r).2 else s
  | .cloneHandle => if 0 < s.handles then { s with handles := s.handles + 1 } else s
  | .dropHandle => { s with handles := s.handles - 1 }
  | .start => s.start
  | .drop => s.drop
  | .cancel => { s with cancelled := true }
  | .poll => s.poll
  | .finish => s.finish c store

/-- Events one after another. -/
def steps {σ : Type} [PolicyView σ] (c : SyncConfig) (store : σ) (s : Scheduler) (events : List Event) :
    Scheduler :=
  events.foldl (step c store) s

end Scheduler

end GuildRoles

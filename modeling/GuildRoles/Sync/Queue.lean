import GuildRoles.Sync.Cycle

/-!
# The queue of cycles

Requests for cycles wait in a bounded queue and run one after another in the order they were
accepted. A queue has room for at least one and at most `2^61 - 1` requests; settings that ask
for more cannot make a queue. An accepted request gets a ticket, numbered from 0. A full queue
refuses a request, and so does a queue that was shut down, before it looks whether it is full.
Running the queue runs every waiting request on the guild as it is then, each cycle on the guild
the previous one left; a shut-down queue drops its requests without running them. Either way the
queue is then empty and open again.
-/

namespace GuildRoles

/-- Why a request was not queued. -/
inductive ScheduleError where
  | queueFull
  | closed
  deriving DecidableEq, Repr

/-- The sentence of the refusal. -/
def ScheduleError.message : ScheduleError → String
  | .queueFull => "sync queue is full"
  | .closed => "sync scheduler has shut down"

/-- A request for a cycle. -/
structure SyncRequest where
  ns : Namespace
  channel : Option String := none
  requester : Option String := none
  notify : Bool := true
  deriving DecidableEq, Repr

/-- The queue of requests. -/
structure Queue where
  capacity : Nat
  pending : List (Nat × SyncRequest) := []
  nextTicket : Nat := 0
  closed : Bool := false
  deriving DecidableEq, Repr

/-- What running one queued request gave: its ticket, the messages that reached its requester,
and the result, none when it was dropped. -/
structure Finished where
  ticket : Nat
  progress : List Progress
  result : Option (Except CycleError Report)

namespace Queue

/-- The most requests a queue can hold: its free places are counted in 61 bits. -/
def maxCapacity : Nat := Nat.pow 2 61 - 1

/-- An empty queue for the settings of a cycle, or none when they ask for more places than a
queue can hold. -/
def ofConfig (c : SyncConfig) : Option Queue :=
  if c.effectiveQueueCapacity ≤ maxCapacity then some { capacity := c.effectiveQueueCapacity }
  else none

/-- Queues a request, giving its ticket. -/
def enqueue (q : Queue) (r : SyncRequest) : Except ScheduleError (Nat × Queue) :=
  if q.closed then .error .closed
  else if q.pending.length ≥ q.capacity then .error .queueFull
  else
    let q' := { q with pending := q.pending ++ [(q.nextTicket, r)], nextTicket := q.nextTicket + 1 }
    .ok (q.nextTicket, q')

/-- Shuts the queue down. -/
def close (q : Queue) : Queue := { q with closed := true }

/-- Runs requests one after another, each on the guild the previous one left. -/
def runAll {σ : Type} [PolicyView σ] (c : SyncConfig) (store : σ) :
    List (Nat × SyncRequest) → Guild → List Finished × Guild
  | [], g => ([], g)
  | (t, r) :: rest, g =>
    let out := runCycle c store r.ns g
    let (done, g') := runAll c store rest out.guild
    (⟨t, Progress.delivered r.notify out.sent, some out.result⟩ :: done, g')

/-- Runs every waiting request, or drops them all when the queue was shut down, and leaves the
queue empty and open. -/
def drain {σ : Type} [PolicyView σ] (q : Queue) (c : SyncConfig) (store : σ) (g : Guild) :
    List Finished × Guild × Queue :=
  let fresh := { q with pending := [], closed := false }
  if q.closed then (q.pending.map fun e => ⟨e.1, [], none⟩, g, fresh)
  else
    let (done, g') := runAll c store q.pending g
    (done, g', fresh)

end Queue

end GuildRoles

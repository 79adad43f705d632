import GuildRoles.Sync.Scheduler
import GuildRoles.Proofs.ProgressStream

/-!
# A scheduler answers its requests one at a time, in the order it accepted them

Whatever happens to a scheduler (requests queued through any copy of its handle, copies made and
dropped, the scheduler started, dropped before it starts or cancelled, and the steps of its
loop), it keeps one invariant, `Scheduler.Sound`: the requests it took from its queue and those
waiting in it carry the tickets from 0 on, in order; the queue holds at most its capacity and
refuses requests exactly once the scheduler let go of it; and the requests it answered heard
what running their cycles one after another from the first guild gives (`Queue.runAll`), while
the others heard nothing yet. Each kind of event keeps it (`Sound.step`), hence every run does
(`Sound.steps`).

`steps_serve_requests` reads off it what requesters see: cycles start in ticket order, each once
and only after the one before it ended, each on the guild the one before left; a request is
refused as full exactly when the scheduler still receives and its capacity of accepted requests
waits, and as closed exactly when the scheduler is gone; an answered request heard its cycle's
messages and then its one result, and its receiver is closed; and once the scheduler is gone,
no request waits and every receiver is closed.
-/

namespace GuildRoles

/-- What the requester of a finished request heard: the messages that reached it, then its
result. -/
def Finished.heard (f : Finished) : List Progress := f.progress ++ f.result.toList.map .finished

theorem map_modify {α β : Type} (l : List α) (i : Nat) {f : α → α} {g : α → β} (f' : β → β)
    (h : ∀ x, g (f x) = f' (g x)) : (l.modify i f).map g = (l.map g).modify i f' := by
  apply List.ext_getElem?
  intro j
  simp only [List.getElem?_map, List.getElem?_modify]
  cases l[j]? <;> by_cases hij : i = j <;> simp [hij, h]

theorem modify_append_cons {α : Type} {A B : List α} {i : Nat} (hi : A.length = i) (x : α) (f : α → α) :
    (A ++ x :: B).modify i f = A ++ f x :: B := by
  subst hi
  induction A with
  | nil => simp
  | cons a A ih => simp [ih]

theorem map_fst_eq_range_of_append {A B : List (Nat × SyncRequest)}
    (h : (A ++ B).map Prod.fst = List.range (A ++ B).length) : A.map Prod.fst = List.range A.length := by
  rw [List.length_append, List.range_add, List.map_append] at h
  exact (List.append_inj h (by simp)).1

theorem getElem?_modify_map {α β : Type} {l : List α} {t i : Nat} {f : α → α} {g : α → β}
    (h : ∀ x, g (f x) = g x) : (l.modify t f)[i]?.map g = l[i]?.map g := by
  rw [List.getElem?_modify]
  cases l[i]? <;> by_cases hti : t = i <;> simp [hti, h]

theorem lt_length_of_getElem?_map {α β : Type} {l : List α} {i : Nat} {f : α → β} {b : β}
    (h : l[i]?.map f = some b) : i < l.length := by
  by_contra hge
  rw [List.getElem?_eq_none (by omega)] at h
  cases h

namespace Queue

variable {σ : Type} [PolicyView σ] (c : SyncConfig) (store : σ)

theorem enqueue_eq_ok {q q' : Queue} {r : SyncRequest} {t : Nat} :
    q.enqueue r = .ok (t, q') ↔ q.closed = false ∧ q.pending.length < q.capacity ∧ t = q.nextTicket ∧
      q' = { q with pending := q.pending ++ [(q.nextTicket, r)], nextTicket := q.nextTicket + 1 } := by
  unfold enqueue
  split
  · simp_all
  · split
    · rename_i hfull
      simp only [reduceCtorEq, false_iff, not_and]
      exact fun _ hlt => absurd hlt (Nat.not_lt.2 hfull)
    · simp only [Except.ok.injEq, Prod.mk.injEq]
      constructor
      · rintro ⟨rfl, rfl⟩
        exact ⟨by simp_all, by omega, rfl, rfl⟩
      · rintro ⟨-, -, rfl, rfl⟩
        exact ⟨rfl, rfl⟩

@[simp] theorem runAll_nil (g : Guild) : runAll c store [] g = ([], g) := rfl

theorem runAll_cons (t : Nat) (r : SyncRequest) (rest : List (Nat × SyncRequest)) (g : Guild) :
    runAll c store ((t, r) :: rest) g =
      (⟨t, Progress.delivered r.notify (runCycle c store r.ns g).sent, some (runCycle c store r.ns g).result⟩ ::
          (runAll c store rest (runCycle c store r.ns g).guild).1,
        (runAll c store rest (runCycle c store r.ns g).guild).2) := rfl

/-- Running two lists of requests runs the second on the guild the first leaves. -/
theorem runAll_append (xs ys : List (Nat × SyncRequest)) (g : Guild) :
    runAll c store (xs ++ ys) g =
      ((runAll c store xs g).1 ++ (runAll c store ys (runAll c store xs g).2).1,
        (runAll c store ys (runAll c store xs g).2).2) := by
  induction xs generalizing g with
  | nil => rfl
  | cons x xs ih =>
    obtain ⟨t, r⟩ := x
    simp only [List.cons_append, runAll_cons, ih]

theorem length_runAll (xs : List (Nat × SyncRequest)) (g : Guild) :
    (runAll c store xs g).1.length = xs.length := by
  induction xs generalizing g with
  | nil => rfl
  | cons x xs ih =>
    obtain ⟨t, r⟩ := x
    simp [runAll_cons, ih]

/-- The request at place `i` runs on the guild the ones before it leave. -/
theorem getElem?_runAll (xs : List (Nat × SyncRequest)) (g : Guild) {i : Nat} (hi : i < xs.length) :
    (runAll c store xs g).1[i]? =
      some ⟨xs[i].1, Progress.delivered xs[i].2.notify
          (runCycle c store xs[i].2.ns (runAll c store (xs.take i) g).2).sent,
        some (runCycle c store xs[i].2.ns (runAll c store (xs.take i) g).2).result⟩ := by
  have hsplit : xs = xs.take i ++ xs[i] :: xs.drop (i + 1) := by simp
  have hlen : (runAll c store (xs.take i) g).1.length = i := by
    rw [length_runAll, List.length_take_of_le (Nat.le_of_lt hi)]
  conv_lhs => rw [hsplit, runAll_append]
  rw [List.getElem?_append_right (by omega), hlen, Nat.sub_self]
  rfl

end Queue

namespace Scheduler

section Sound

variable {σ : Type} [PolicyView σ] (c : SyncConfig) (store : σ) (g : Guild)

/-- What holds of a scheduler made for settings `c` on guild `g`, whatever happened to it since. -/
structure Sound (s : Scheduler) : Prop where
  capacity : s.queue.capacity = c.effectiveQueueCapacity
  fits : s.queue.pending.length ≤ s.queue.capacity
  /-- The queue refuses requests exactly once the scheduler let go of it. -/
  closed_gone : s.queue.closed = s.status.gone
  numbered : s.queue.nextTicket = s.receivers.length
  /-- The requests taken from the queue and those waiting in it carry the tickets from 0 on, each
  with the request its receiver was handed out for. -/
  tickets : (s.started ++ s.queue.pending).map Prod.fst = List.range (s.started ++ s.queue.pending).length
  requests : ∀ e ∈ s.started ++ s.queue.pending, s.receivers[e.1]?.map Receiver.request = some e.2
  taken : (s.started ++ s.queue.pending).length ≤ s.receivers.length
  /-- No request is lost until the scheduler lets go of its queue, which empties it. -/
  kept : s.status.gone = false → (s.started ++ s.queue.pending).length = s.receivers.length
  emptied : s.status.gone = true → s.queue.pending = []
  running : ∀ t r, s.status = .running t r → s.started.getLast? = some (t, r)
  /-- The answered requests heard what running their cycles one after another from `g` gives, and
  the others nothing; the guild is the one the last of them left. -/
  heard : s.receivers.map Receiver.heard =
    (Queue.runAll c store s.answered g).1.map Finished.heard ++
      List.replicate (s.receivers.length - s.answered.length) []
  guild : (Queue.runAll c store s.answered g).2 = s.guild

variable {c store g} {s : Scheduler}

@[simp] theorem letGo_status (st : Status) : (s.letGo st).status = st := rfl
@[simp] theorem letGo_pending (st : Status) : (s.letGo st).queue.pending = [] := rfl
@[simp] theorem letGo_started (st : Status) : (s.letGo st).started = s.started := rfl
@[simp] theorem letGo_receivers (st : Status) : (s.letGo st).receivers = s.receivers := rfl

theorem answered_of_not_running (h : s.status.runningTicket? = none) : s.answered = s.started := by
  unfold answered
  split
  · simp_all [Status.runningTicket?]
  · rfl

theorem answered_of_running {t : Nat} {r : SyncRequest} (h : s.status = .running t r) :
    s.answered = s.started.dropLast := by
  simp [answered, h]

theorem answered_prefix : s.answered <+: s.started := by
  unfold answered
  split
  · exact List.dropLast_prefix _
  · exact List.prefix_refl _

theorem runningTicket?_of_gone {st : Status} (h : st.gone = true) : st.runningTicket? = none := by
  cases st <;> simp_all [Status.gone, Status.runningTicket?]

theorem Sound.started_map_fst (h : Sound c store g s) :
    s.started.map Prod.fst = List.range s.started.length :=
  map_fst_eq_range_of_append h.tickets

theorem Sound.answered_length_le (h : Sound c store g s) : s.answered.length ≤ s.receivers.length := by
  have hle : s.answered.length ≤ s.started.length := answered_prefix.length_le
  have := h.taken
  simp only [List.length_append] at this
  omega

/-- A scheduler as it is made. -/
theorem sound_new (h : new c g = some s) : Sound c store g s := by
  simp only [new, Queue.ofConfig] at h
  split at h
  · cases h
    exact { capacity := rfl, fits := Nat.zero_le _, closed_gone := rfl, numbered := rfl, tickets := rfl,
            requests := by simp, taken := Nat.le_refl _, kept := fun _ => rfl,
            emptied := fun h => (by cases h), running := fun _ _ h => (by cases h), heard := rfl, guild := rfl }
  · simp at h

/-- The copies of the handle and the cancellation play no part in the invariant. -/
theorem Sound.frame (h : Sound c store g s) (n : Nat) (b : Bool) :
    Sound c store g { s with handles := n, cancelled := b } :=
  ⟨h.capacity, h.fits, h.closed_gone, h.numbered, h.tickets, h.requests, h.taken, h.kept, h.emptied,
    h.running, h.heard, h.guild⟩

/-- Letting go of the queue while no cycle runs drops the waiting requests and nothing else. -/
theorem Sound.letGo (h : Sound c store g s) (hrun : s.status.runningTicket? = none) {st : Status}
    (hst : st.gone = true) : Sound c store g (s.letGo st) := by
  have hans : (s.letGo st).answered = s.answered := by
    rw [answered_of_not_running (runningTicket?_of_gone hst), answered_of_not_running hrun]
    rfl
  refine { capacity := h.capacity, fits := Nat.zero_le _, closed_gone := hst.symm, numbered := h.numbered,
           tickets := ?_, requests := ?_, taken := ?_, kept := fun h' => ?_,
           emptied := fun _ => rfl, running := ?_, heard := ?_, guild := ?_ }
  · simpa using h.started_map_fst
  · intro e he
    simp only [letGo_started, letGo_pending, List.append_nil] at he
    exact h.requests e (List.mem_append_left _ he)
  · have := h.taken
    simp only [letGo_started, letGo_pending, letGo_receivers, List.length_append, List.length_nil] at this ⊢
    omega
  · rw [letGo_status, hst] at h'
    cases h'
  · intro t r hr
    rw [letGo_status] at hr
    simp [hr, Status.gone] at hst
  · rw [hans]
    exact h.heard
  · rw [hans]
    exact h.guild

/-- A request accepted into the queue waits last, with the next ticket and a receiver of its own. -/
theorem Sound.enqueue (h : Sound c store g s) (r : SyncRequest) : Sound c store g (s.enqueue r).2 := by
  unfold Scheduler.enqueue
  split
  · rename_i t q hq
    obtain ⟨hopen, hroom, rfl, rfl⟩ := Queue.enqueue_eq_ok.1 hq
    dsimp only
    have hgone : s.status.gone = false := by rw [← h.closed_gone, hopen]
    have hnext : s.queue.nextTicket = (s.started ++ s.queue.pending).length := by
      rw [h.numbered, h.kept hgone]
    have hle := h.answered_length_le
    refine { capacity := h.capacity, fits := ?_, closed_gone := h.closed_gone, numbered := ?_,
             tickets := ?_, requests := ?_, taken := ?_, kept := ?_, emptied := ?_,
             running := h.running, heard := ?_, guild := h.guild }
    · dsimp only
      simp only [List.length_append, List.length_singleton]
      omega
    · simp [h.numbered]
    · dsimp only
      rw [← List.append_assoc, List.map_append, h.tickets, hnext]
      simp only [List.length_append, List.length_singleton, List.map_cons, List.map_nil, List.range_succ]
    · intro e he
      dsimp only at he ⊢
      rw [← List.append_assoc, List.mem_append, List.mem_singleton] at he
      rcases he with he | rfl
      · have hsome := h.requests e he
        rw [List.getElem?_append_left (lt_length_of_getElem?_map hsome)]
        exact hsome
      · simp [h.numbered]
    · have := h.taken
      dsimp only
      simp only [List.length_append, List.length_singleton] at this ⊢
      omega
    · intro _
      dsimp only
      simp only [List.length_append, List.length_singleton]
      have := h.kept hgone
      simp only [List.length_append] at this
      omega
    · intro hg
      simp_all
    · show _ = (Queue.runAll c store s.answered g).1.map Finished.heard ++ List.replicate (_ - s.answered.length) []
      simp only [List.map_append, List.map_singleton, h.heard, List.length_append, List.length_singleton,
        List.append_assoc]
      rw [show s.receivers.length + 1 - s.answered.length = s.receivers.length - s.answered.length + 1 by omega,
        List.replicate_succ']
  · exact h

/-- The loop starts with nothing taken from the queue yet. -/
theorem Sound.start (h : Sound c store g s) : Sound c store g s.start := by
  unfold Scheduler.start
  split
  · rename_i hs
    have hans : ({ s with status := .waiting } : Scheduler).answered = s.answered := by
      rw [answered_of_not_running rfl, answered_of_not_running (by rw [hs]; rfl)]
    refine { capacity := h.capacity, fits := h.fits, closed_gone := ?_, numbered := h.numbered,
             tickets := h.tickets, requests := h.requests, taken := h.taken, kept := ?_,
             emptied := fun h' => (by cases h'), running := fun _ _ h' => (by cases h'), heard := ?_,
             guild := ?_ }
    · rw [h.closed_gone, hs]
      rfl
    · intro _
      exact h.kept (by rw [hs]; rfl)
    · rw [hans]
      exact h.heard
    · rw [hans]
      exact h.guild
  · exact h

theorem Sound.drop (h : Sound c store g s) : Sound c store g s.drop := by
  unfold Scheduler.drop
  split
  · rename_i hs
    exact h.letGo (by rw [hs]; rfl) rfl
  · exact h

/-- Taking the first waiting request starts its cycle: it moves from the queue to the log. -/
theorem Sound.take (h : Sound c store g s) (hw : s.status = .waiting) {t : Nat} {r : SyncRequest}
    {rest : List (Nat × SyncRequest)} (hp : s.queue.pending = (t, r) :: rest) :
    Sound c store g
      { s with status := .running t r, queue := { s.queue with pending := rest },
               started := s.started ++ [(t, r)] } := by
  have hledger : (s.started ++ [(t, r)]) ++ rest = s.started ++ s.queue.pending := by
    rw [hp]
    simp
  have hans : ({ s with status := .running t r, queue := { s.queue with pending := rest },
                        started := s.started ++ [(t, r)] } : Scheduler).answered = s.answered := by
    rw [answered_of_running rfl, answered_of_not_running (by rw [hw]; rfl)]
    simp
  refine { capacity := h.capacity, fits := ?_, closed_gone := ?_, numbered := h.numbered,
           tickets := ?_, requests := ?_, taken := ?_, kept := ?_, emptied := fun h' => (by cases h'),
           running := ?_, heard := ?_, guild := ?_ }
  · have := h.fits
    rw [hp, List.length_cons] at this
    dsimp only
    omega
  · rw [h.closed_gone, hw]
    rfl
  · dsimp only
    rw [hledger]
    exact h.tickets
  · dsimp only
    rw [hledger]
    exact h.requests
  · dsimp only
    rw [hledger]
    exact h.taken
  · intro _
    dsimp only
    rw [hledger]
    exact h.kept (by rw [hw]; rfl)
  · intro t' r' h'
    cases h'
    simp
  · rw [hans]
    exact h.heard
  · rw [hans]
    exact h.guild

theorem Sound.poll (h : Sound c store g s) : Sound c store g s.poll := by
  unfold Scheduler.poll
  split
  · rename_i hw
    split
    · exact h.letGo (by rw [hw]; rfl) rfl
    · split
      · rename_i t r rest hp
        exact h.take hw hp
      · split
        · exact h.letGo (by rw [hw]; rfl) rfl
        · exact h
  · exact h

/-- The running request is the last one taken from the queue, and its ticket counts the
answered ones. -/
theorem Sound.running_last (h : Sound c store g s) {t : Nat} {r : SyncRequest} (hs : s.status = .running t r) :
    s.answered ++ [(t, r)] = s.started ∧ t = s.answered.length := by
  have hans : s.answered ++ [(t, r)] = s.started := by
    rw [answered_of_running hs]
    exact List.dropLast_append_getLast? _ (h.running t r hs)
  refine ⟨hans, ?_⟩
  have hmap := h.started_map_fst
  rw [← hans] at hmap
  simp only [List.map_append, List.map_cons, List.map_nil, List.length_append, List.length_singleton,
    List.range_succ] at hmap
  simpa using (List.append_inj hmap (by simp)).2

/-- The end of the running cycle: its requester hears its messages and its result, the guild is
the one it leaves, and the cycle joins the answered ones. -/
theorem Sound.finish (h : Sound c store g s) : Sound c store g (s.finish c store) := by
  unfold Scheduler.finish
  split
  · rename_i t r hs
    obtain ⟨hans, hticket⟩ := h.running_last hs
    have hlt : t < s.receivers.length :=
      lt_length_of_getElem?_map (h.requests (t, r) (List.mem_append_left _ (by rw [← hans]; simp)))
    have hrun := Queue.runAll_append c store s.answered [(t, r)] g
    rw [h.guild] at hrun
    dsimp only
    refine { capacity := h.capacity, fits := h.fits, closed_gone := ?_, numbered := ?_,
             tickets := h.tickets, requests := ?_, taken := ?_, kept := ?_,
             emptied := fun h' => (by cases h'), running := fun _ _ h' => (by cases h'), heard := ?_,
             guild := ?_ }
    · rw [h.closed_gone, hs]
      rfl
    · rw [List.length_modify]
      exact h.numbered
    · intro e he
      dsimp only at he ⊢
      rw [getElem?_modify_map]
      · exact h.requests e he
      · intro _
        rfl
    · rw [List.length_modify]
      exact h.taken
    · intro _
      rw [List.length_modify]
      exact h.kept (by rw [hs]; rfl)
    · -- the running request's receiver is the first of those that heard nothing yet
      show _ = (Queue.runAll c store s.started g).1.map Finished.heard ++ List.replicate (_ - s.started.length) []
      have hH : ((Queue.runAll c store s.answered g).1.map Finished.heard).length = t := by
        simp [Queue.length_runAll, hticket]
      rw [map_modify _ _ (fun hd => hd ++ Progress.delivered r.notify (runCycle c store r.ns s.guild).sent ++
          [.finished (runCycle c store r.ns s.guild).result]) (fun _ => rfl), h.heard, ← hans, hrun,
        List.length_modify,
        show s.receivers.length - s.answered.length = s.receivers.length - (s.answered ++ [(t, r)]).length + 1 by
          simp only [List.length_append, List.length_singleton]
          omega,
        List.replicate_succ, modify_append_cons hH]
      simp [Finished.heard, Queue.runAll_cons]
    · show (Queue.runAll c store s.started g).2 = _
      rw [← hans, hrun]
      rfl
  · exact h

theorem Sound.step (h : Sound c store g s) (e : Event) : Sound c store g (s.step c store e) := by
  cases e with
  | enqueue r =>
    simp only [Scheduler.step]
    split
    · exact h.enqueue r
    · exact h
  | cloneHandle =>
    simp only [Scheduler.step]
    split
    · exact h.frame _ s.cancelled
    · exact h
  | dropHandle => exact h.frame _ s.cancelled
  | start => exact h.start
  | drop => exact h.drop
  | cancel => exact h.frame s.handles true
  | poll => exact h.poll
  | finish => exact h.finish

/-- Every run of events keeps the invariant. -/
theorem Sound.steps (h : Sound c store g s) (events : List Event) :
    Sound c store g (s.steps c store events) := by
  induction events generalizing s with
  | nil => exact h
  | cons e events ih => exact ih (h.step e)

/-- What queueing one more request answers: closed once the scheduler is gone, else full exactly
when the requests accepted and not yet taken fill the queue, else the next ticket. -/
theorem Sound.enqueue_reply (h : Sound c store g s) (r : SyncRequest) :
    (s.enqueue r).1 =
      if s.status.gone then .error .closed
      else if s.receivers.length - s.started.length < c.effectiveQueueCapacity then .ok s.receivers.length
      else .error .queueFull := by
  cases hg : s.status.gone
  · -- the queue is open, and waits for exactly the requests not yet taken
    have hopen : s.queue.closed = false := by rw [h.closed_gone, hg]
    have hwait : s.receivers.length - s.started.length = s.queue.pending.length := by
      have := h.kept hg
      simp only [List.length_append] at this
      omega
    rw [hwait]
    simp only [Scheduler.enqueue, Queue.enqueue, hopen, ← h.capacity, ← h.numbered]
    by_cases hroom : s.queue.pending.length < s.queue.capacity
    · simp [hroom, Nat.not_le.2 hroom]
    · simp [hroom, Nat.not_lt.1 hroom]
  · have hclosed : s.queue.closed = true := by rw [h.closed_gone, hg]
    simp [Scheduler.enqueue, Queue.enqueue, hclosed]

theorem Sound.answered_map_fst (h : Sound c store g s) :
    s.answered.map Prod.fst = List.range s.answered.length := by
  obtain ⟨rest, hrest⟩ := answered_prefix (s := s)
  have hmap := h.started_map_fst
  rw [← hrest] at hmap
  exact map_fst_eq_range_of_append hmap

/-- The requests waiting in the queue come after all those taken from it. -/
theorem Sound.started_le_pending (h : Sound c store g s) : ∀ e ∈ s.queue.pending, s.started.length ≤ e.1 := by
  intro e he
  have hmap := h.tickets
  rw [List.length_append, List.range_add, List.map_append] at hmap
  have hpend := (List.append_inj hmap (by simp)).2
  have : e.1 ∈ s.queue.pending.map Prod.fst := List.mem_map_of_mem he
  rw [hpend, List.mem_map] at this
  obtain ⟨k, -, hk⟩ := this
  omega

/-- The receiver of an answered request is closed: its request neither waits nor runs. -/
theorem Sound.closed_of_answered (h : Sound c store g s) {t : Nat} (ht : t < s.answered.length) :
    s.closed t = true := by
  have hle : s.answered.length ≤ s.started.length := answered_prefix.length_le
  have hwait : (s.queue.pending.any fun e => e.1 == t) = false := by
    rw [List.any_eq_false]
    intro e he
    have := h.started_le_pending e he
    simp only [beq_iff_eq]
    omega
  have hrun : s.status.runningTicket? ≠ some t := by
    cases hs : s.status with
    | running t' r' =>
      have := (h.running_last hs).2
      simp only [Status.runningTicket?, ne_eq, Option.some.injEq]
      omega
    | _ => simp [Status.runningTicket?]
  simp [closed, hwait, hrun]

/-- What the receiver of each accepted request heard: an answered one heard the messages of its
cycle, run on the guild the earlier ones left, and then its result, and is closed; any other
heard nothing yet. -/
theorem Sound.receiver (h : Sound c store g s) {t : Nat} (ht : t < s.receivers.length) :
    (t < s.answered.length ∧ s.closed t = true ∧
      s.receivers[t].heard =
        Progress.delivered s.receivers[t].request.notify (runCycle c store s.receivers[t].request.ns
            (Queue.runAll c store (s.answered.take t) g).2).sent ++
          [.finished (runCycle c store s.receivers[t].request.ns
            (Queue.runAll c store (s.answered.take t) g).2).result]) ∨
    (s.answered.length ≤ t ∧ s.receivers[t].heard = []) := by
  have hheard := congrArg (·[t]?) h.heard
  simp only [List.getElem?_map, List.getElem?_eq_getElem ht, Option.map_some] at hheard
  by_cases hta : t < s.answered.length
  · -- the answered request at place `t` has ticket `t`, and its receiver was handed out for it
    have hfst : s.answered[t].1 = t := by
      have := congrArg (·[t]?) h.answered_map_fst
      simpa [hta] using this
    have hreq : s.receivers[t].request = s.answered[t].2 := by
      have hmem : s.answered[t] ∈ s.started := answered_prefix.subset (List.getElem_mem hta)
      have := h.requests _ (List.mem_append_left _ hmem)
      rw [hfst, List.getElem?_eq_getElem ht] at this
      simpa using this
    refine .inl ⟨hta, h.closed_of_answered hta, ?_⟩
    rw [List.getElem?_append_left (by simpa [Queue.length_runAll] using hta), List.getElem?_map,
      Queue.getElem?_runAll _ _ _ _ hta] at hheard
    simp only [Option.map_some, Option.some.injEq] at hheard
    rw [hheard, hreq]
    simp [Finished.heard]
  · refine .inr ⟨Nat.le_of_not_lt hta, ?_⟩
    rw [List.getElem?_append_right (by simp [Queue.length_runAll]; omega)] at hheard
    simp only [List.length_map, Queue.length_runAll, List.getElem?_replicate] at hheard
    rw [if_pos (by omega)] at hheard
    exact Option.some.inj hheard

/-- Once the scheduler is gone, no request waits and every receiver is closed. -/
theorem Sound.closed_of_gone (h : Sound c store g s) (hg : s.status.gone = true) :
    s.queue.pending = [] ∧ ∀ t, s.closed t = true := by
  refine ⟨h.emptied hg, fun t => ?_⟩
  simp [closed, h.emptied hg, runningTicket?_of_gone hg]

end Sound

section Runs

variable {σ : Type} [PolicyView σ]

/-- Whatever the events, a scheduler starts cycles in the order of their tickets, which count the
requests accepted before, each once and only after the one before it ended, each on the guild the
one before it left; it refuses a request as full exactly when it still receives and its capacity
of accepted requests waits, as closed exactly when it stopped or was dropped, and accepts it
otherwise; an answered request heard the messages of its cycle and then its one result, and its
receiver is closed; any other heard nothing yet; and once the scheduler is gone, no request
waits and every receiver is closed. -/
theorem steps_serve_requests (c : SyncConfig) (store : σ) (g : Guild) {s₀ : Scheduler}
    (h₀ : new c g = some s₀) (events : List Event) :
    let s := s₀.steps c store events
    (s.started.map Prod.fst = List.range s.started.length ∧
      (∀ e ∈ s.started, s.receivers[e.1]?.map Receiver.request = some e.2) ∧
      (∀ t r, s.status = .running t r → s.answered ++ [(t, r)] = s.started) ∧
      (Queue.runAll c store s.answered g).2 = s.guild) ∧
    (∀ r, ((s.enqueue r).1 = .error .queueFull ↔
          s.status.gone = false ∧ s.receivers.length - s.started.length = c.effectiveQueueCapacity) ∧
        ((s.enqueue r).1 = .error .closed ↔ s.status.gone = true) ∧
        ((s.enqueue r).1 = .ok s.receivers.length ↔
          s.status.gone = false ∧ s.receivers.length - s.started.length < c.effectiveQueueCapacity)) ∧
    (∀ t (ht : t < s.receivers.length),
      (t < s.answered.length ∧ s.closed t = true ∧
        let rq := s.receivers[t].request
        let out := runCycle c store rq.ns (Queue.runAll c store (s.answered.take t) g).2
        s.receivers[t].heard = Progress.delivered rq.notify out.sent ++ [.finished out.result] ∧
        ∀ m ∈ Progress.delivered rq.notify out.sent, ∀ res, m ≠ .finished res) ∨
      (s.answered.length ≤ t ∧ s.receivers[t].heard = [])) ∧
    (s.status.gone = true → s.queue.pending = [] ∧ ∀ t, s.closed t = true) := by
  intro s
  have h : Sound c store g s := (sound_new h₀).steps events
  -- the requests accepted and not yet taken never outnumber the places of the queue
  have hwait : s.status.gone = false →
      s.receivers.length - s.started.length ≤ c.effectiveQueueCapacity := by
    intro hg
    have := h.kept hg
    have := h.fits
    rw [h.capacity] at this
    simp only [List.length_append] at *
    omega
  refine ⟨⟨h.started_map_fst, fun e he => h.requests e (List.mem_append_left _ he),
    fun t r hs => (h.running_last hs).1, h.guild⟩, fun r => ?_, fun t ht => ?_, h.closed_of_gone⟩
  · rw [h.enqueue_reply r]
    cases hg : s.status.gone
    · by_cases hroom : s.receivers.length - s.started.length < c.effectiveQueueCapacity
      · simp [hroom, Nat.ne_of_lt hroom]
      · have := hwait hg
        simp [hroom]
        omega
    · simp
  · rcases h.receiver ht with ⟨hta, hclosed, hheard⟩ | hnone
    · refine .inl ⟨hta, hclosed, hheard, fun m hm res => ?_⟩
      exact Cycle.runCycle_sends_no_result _ _ _ _ m (List.mem_of_mem_filter hm) res
    · exact .inr hnone

/-- A scheduler with room for one request, made on a new guild. -/
def oneSlot : Scheduler := { queue := { capacity := 1 }, guild := Guild.empty }

/-- One request accepted, started and taken, and a second accepted while the first runs. -/
def oneSlotEvents : List Event := [.enqueue { ns := "corp" }, .start, .poll, .enqueue { ns := "alliance" }]

/-- With one request running and one waiting, a queue of one place refuses a third as full. -/
theorem steps_serve_requests_oneSlot :
    new {} Guild.empty = some oneSlot ∧
      ((oneSlot.steps {} ({} : Store) oneSlotEvents).enqueue { ns := "guests" }).1 = .error .queueFull := by
  have h₀ : new {} Guild.empty = some oneSlot := rfl
  have hfull := ((steps_serve_requests {} ({} : Store) Guild.empty h₀ oneSlotEvents).2.1 { ns := "guests" }).1
  exact ⟨h₀, hfull.2 ⟨rfl, rfl⟩⟩

end Runs

end Scheduler

end GuildRoles

import GuildRoles.Sync.Sig
import GuildRoles.Proofs.Resolution

/-!
# Commands on special-interest groups

A command on a group looks its role up, checks that the role is a group, that a join is on a
joinable group and that the group's second filter is named, in that order, and changes the member
set of that filter; then it queues a silent cycle for the namespace. Each refusal has its own
lemma (`Sig.change_notASig`, `Sig.change_notJoinable`, `Sig.change_noMemberFilter`), all of them
on any policy source, and a refused change leaves the store and the queue as they were
(`Sig.run_of_change_error`).

On a store reached through its administrative operations the lookup finds exactly the listed role
of the short name, and every filter a role names exists, so a command that passes the checks
always changes the member set: the user is added (unless the id is empty) or removed, and the rest
of the set stays. The queue may still refuse the cycle, closed or full, and the change stays in
place then.

Main statement: `Sig.run_outcomes`.
-/

namespace GuildRoles

namespace Store

variable {s : Store} {ns : Namespace} {p : Policy} {f : String}

/-- On a well-formed store the role a policy source finds for a listed short name is the listed
role. -/
theorem viewRole_of_mem (hs : s.WellFormed) {r : Role} (hr : r ∈ s.listRoles ns) :
    PolicyView.role s ns r.shortName = .ok r := by
  rw [role_eq, find?_shortName hs.listRoles_sorted hr]

theorem viewRole_of_not_mem {short : String} (h : ∀ r ∈ s.listRoles ns, r.shortName ≠ short) :
    PolicyView.role s ns short = .error (.roleNotFound short) := by
  have hnone : (s.listRoles ns).find? (fun a => a.shortName == short) = none :=
    List.find?_eq_none.2 fun r hr => by simpa using h r hr
  rw [role_eq, hnone]

theorem policy_of_filterExists (h : s.filterExists ns f = true) :
    ∃ p, s.policy? ns = some p ∧ p.hasFilter f = true := by
  unfold filterExists at h
  cases hp : s.policy? ns with
  | none => simp [hp] at h
  | some p => exact ⟨p, rfl, by simpa [hp] using h⟩

/-- Changing the members of an existing filter replaces that filter's member set by the function
applied to the members it had. -/
theorem changeMembers_of_hasFilter (hp : s.policy? ns = some p) (hf : p.hasFilter f = true)
    (g : MemberSet → MemberSet) :
    s.changeMembers ns f g =
      .ok (s.setPolicy ns { p with members := Sorted.put f (g (s.filterMembers ns f)) p.members }) := by
  simp [changeMembers, hp, Policy.ensureFilter, hf, bind, Except.bind, pure, Except.pure, Sorted.alter,
    filterMembers]

end Store

namespace Sig

/-! ### The checks of a command, on any policy source -/

section Checks

variable {σ : Type} [PolicyView σ] [MemberEdits σ] {store : σ} {a : SigAction} {ns sig : String}
  {u : UserId} {r : Role}

theorem change_of_role_error {e : StoreError} (h : PolicyView.role store ns sig = .error e) :
    change store a ns sig u = .error (.store e) := by
  simp [change, h, bind, Except.bind, Except.mapError]

theorem change_notASig (h : PolicyView.role store ns sig = .ok r) (hsig : r.sig = false) :
    change store a ns sig u = .error (.notASig sig) := by
  simp [change, h, hsig, bind, Except.bind, Except.mapError, throw, throwThe, MonadExceptOf.throw]

theorem change_notJoinable (h : PolicyView.role store ns sig = .ok r) (hsig : r.sig = true)
    (hj : r.joinable = false) :
    change store .join ns sig u = .error (.notJoinable sig) := by
  simp [change, h, hsig, hj, bind, Except.bind, Except.mapError, throw, throwThe, MonadExceptOf.throw]

/-- A command that passes the group and join checks is not stopped by the join check. -/
theorem joinCheck_eq_false (hj : a = .join → r.joinable = true) : (a == .join && !r.joinable) = false := by
  cases a <;> simp_all

theorem change_noMemberFilter (h : PolicyView.role store ns sig = .ok r) (hsig : r.sig = true)
    (hj : a = .join → r.joinable = true) (hb : r.filterB = .wildcard) :
    change store a ns sig u = .error (.noMemberFilter sig) := by
  simp [change, h, hsig, joinCheck_eq_false hj, hb, bind, Except.bind, Except.mapError, throw, throwThe,
    MonadExceptOf.throw]

/-- A command that passes every check is the edit of the group's member filter. -/
theorem change_named {f : String} (h : PolicyView.role store ns sig = .ok r) (hsig : r.sig = true)
    (hj : a = .join → r.joinable = true) (hb : r.filterB = .named f) :
    change store a ns sig u =
      (if a.adds then MemberEdits.addMembers store ns f [u]
        else MemberEdits.removeMembers store ns f [u]).mapError .store := by
  cases hadd : a.adds <;>
    simp [change, h, hsig, joinCheck_eq_false hj, hb, hadd, bind, Except.bind, Except.mapError]

/-- A refused change leaves the store and the queue as they were. -/
theorem run_of_change_error {q : Queue} {e : SigError} (h : change store a ns sig u = .error e) :
    run store q a ns sig u = (store, q, .error e) := by
  simp [run, h]

/-- An accepted change stays whatever the queue answers; the ticket of a queued cycle is the
command's answer. -/
theorem run_of_enqueue_ok {q q' : Queue} {t : Nat} {store' : σ} (h : change store a ns sig u = .ok store')
    (hq : q.enqueue { ns := ns, requester := some u.text, notify := false } = .ok (t, q')) :
    run store q a ns sig u = (store', q', .ok t) := by
  simp [run, h, hq]

theorem run_of_enqueue_error {q : Queue} {e : ScheduleError} {store' : σ}
    (h : change store a ns sig u = .ok store')
    (hq : q.enqueue { ns := ns, requester := some u.text, notify := false } = .error e) :
    run store q a ns sig u = (store', q, .error (.schedule e)) := by
  simp [run, h, hq]

end Checks

/-! ### Commands on a reachable store -/

variable {s : Store} {a : SigAction} {ns : Namespace} {u : UserId}

/-- The member set a command leaves: the user added, unless the id is empty, or removed. -/
theorem mem_edit {M : MemberSet} {v : UserId} :
    v ∈ (if a.adds then Sorted.union M ([u].filter fun w => !w.text.isEmpty) else Sorted.diff M [u]) ↔
      if a.adds then v ∈ M ∨ (v = u ∧ u.text ≠ "") else v ∈ M ∧ v ≠ u := by
  cases a.adds
  · simp
  · by_cases hv : v = u
    · subst hv
      simp
    · simp [hv]

/-- On a store, a command that passes every check changes the member set of the group's filter,
which exists. -/
theorem change_store_named {f : String} {p : Policy} (hp : s.policy? ns = some p) (hf : p.hasFilter f = true)
    {sig : String} {r : Role} (h : PolicyView.role s ns sig = .ok r) (hsig : r.sig = true)
    (hj : a = .join → r.joinable = true) (hb : r.filterB = .named f) :
    change s a ns sig u = .ok (s.setPolicy ns
      { p with
        members := Sorted.put f
          (if a.adds then Sorted.union (s.filterMembers ns f) ([u].filter fun w => !w.text.isEmpty)
            else Sorted.diff (s.filterMembers ns f) [u]) p.members }) := by
  rw [change_named h hsig hj hb]
  cases a.adds
  · simp [MemberEdits.removeMembers, Store.removeMembers, Store.changeMembers_of_hasFilter hp hf]
  · simp [MemberEdits.addMembers, Store.addMembers, Store.changeMembers_of_hasFilter hp hf]

/-- What a command does on a store reached through its administrative operations. A short name
that no listed role has is refused, as is a role that is not a group, a join on a group that is
not joinable and a group with no member filter, each leaving the store and the queue as they
were. Otherwise the group's member filter exists and gets the user added (unless the id is empty)
or removed, nothing else of it changing; then a silent cycle for the namespace is queued on
behalf of the user, and when the queue is closed or full the membership change stays. -/
theorem run_outcomes (hs : s.Reachable) (q : Queue) (a : SigAction) (ns sig : String) (u : UserId) :
    ((∀ r ∈ s.listRoles ns, r.shortName ≠ sig) →
      Sig.run s q a ns sig u = (s, q, .error (.store (.roleNotFound sig)))) ∧
    ∀ r ∈ s.listRoles ns, r.shortName = sig →
      (r.sig = false → Sig.run s q a ns sig u = (s, q, .error (.notASig sig))) ∧
      (r.sig = true → a = .join → r.joinable = false →
        Sig.run s q a ns sig u = (s, q, .error (.notJoinable sig))) ∧
      (r.sig = true → (a = .join → r.joinable = true) → r.filterB = .wildcard →
        Sig.run s q a ns sig u = (s, q, .error (.noMemberFilter sig))) ∧
      ∀ f, r.sig = true → (a = .join → r.joinable = true) → r.filterB = .named f →
        ∃ p M', s.policy? ns = some p ∧
          (∀ v, v ∈ M' ↔ if a.adds then v ∈ s.filterMembers ns f ∨ (v = u ∧ u.text ≠ "")
            else v ∈ s.filterMembers ns f ∧ v ≠ u) ∧
          (Sig.run s q a ns sig u).1 = s.setPolicy ns { p with members := Sorted.put f M' p.members } ∧
          (q.closed = true → (Sig.run s q a ns sig u).2 = (q, .error (.schedule .closed))) ∧
          (q.closed = false → q.capacity ≤ q.pending.length →
            (Sig.run s q a ns sig u).2 = (q, .error (.schedule .queueFull))) ∧
          (q.closed = false → q.pending.length < q.capacity →
            (Sig.run s q a ns sig u).2 =
              ({ q with pending := q.pending ++ [(q.nextTicket, { ns := ns, requester := some u.text, notify := false })],
                        nextTicket := q.nextTicket + 1 }, .ok q.nextTicket)) := by
  have hw := hs.wellFormed
  refine ⟨fun hnone => run_of_change_error (change_of_role_error (Store.viewRole_of_not_mem hnone)),
    fun r hr hname => ?_⟩
  subst hname
  have hrole := Store.viewRole_of_mem hw hr
  refine ⟨fun hsig => run_of_change_error (change_notASig hrole hsig), fun hsig ha hj => ?_,
    fun hsig hj hb => run_of_change_error (change_noMemberFilter hrole hsig hj hb),
    fun f hsig hj hb => ?_⟩
  · subst ha
    exact run_of_change_error (change_notJoinable hrole hsig hj)
  -- every filter a listed role names exists, so the member filter's policy is there
  have hnamed : f ∈ r.referencedFilters := by
    cases ha : r.filterA <;> simp [Role.referencedFilters, ha, hb, FilterRef.name?]
  obtain ⟨p, hp, hf⟩ := Store.policy_of_filterExists ((Store.filterExists_of_mem_listRoles hw hr).2 f hnamed)
  have hc : change s a ns r.shortName u = _ := change_store_named hp hf hrole hsig hj hb
  refine ⟨p, _, hp, fun v => mem_edit, ?_, fun hcl => ?_, fun hcl hfull => ?_, fun hcl hroom => ?_⟩
  · -- whichever way the queue answers, the change stays
    cases hq : q.enqueue { ns := ns, requester := some u.text, notify := false } with
    | error e => exact congrArg Prod.fst (run_of_enqueue_error hc hq)
    | ok tq => exact congrArg Prod.fst (run_of_enqueue_ok hc hq)
  · exact congrArg Prod.snd (run_of_enqueue_error hc (by simp [Queue.enqueue, hcl]))
  · exact congrArg Prod.snd (run_of_enqueue_error hc (by simp [Queue.enqueue, hcl, hfull]))
  · exact congrArg Prod.snd (run_of_enqueue_ok hc (by simp [Queue.enqueue, hcl, Nat.not_le.2 hroom]))

/-- User `7` joining the role `a` of the two-role store, which is not a group, is refused, and
the store and the queue stay as they were. -/
theorem run_outcomes_twoRole :
    Cycle.twoRoleStore.Reachable ∧
      Sig.run Cycle.twoRoleStore { capacity := 1 } .join "corp" "a" ⟨"7"⟩ =
        (Cycle.twoRoleStore, { capacity := 1 }, .error (.notASig "a")) :=
  ⟨Cycle.twoRoleStore_reachable,
    ((run_outcomes Cycle.twoRoleStore_reachable { capacity := 1 } .join "corp" "a" ⟨"7"⟩).2
      (Cycle.membersRole "a" "A") (by decide) rfl).1 rfl⟩

end Sig

end GuildRoles

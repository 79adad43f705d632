import GuildRoles.Proofs.CycleReport
import GuildRoles.Proofs.Reconcile

/-!
# Members of the roles of a reachable policy

A store reached through its administrative calls is well formed (`Store.WellFormed`): every role
of a namespace names a filter, and every filter it names exists. The engine's reads of such a
policy never fail on its roles:

* `resolve_eq_roleMembers`: a role resolves to `Store.roleMembers`, the users of its first filter
  that its second filter holds, or the users of the one filter it names when the other side is
  the wildcard;
* `roleMembership_of_mem`, `roleMembership_of_not_mem`: the members of a short name are those of
  its role, and a short name that no role has is the only refusal;
* `userRoles_eq`: the roles of a user are the roles that hold the user, in the order of their
  short names;
* `runCycle_error_platformFatal`: a cycle stops only on a fatal error of the guild.

`Reachable.resolves_roleMembers` gathers them for every reachable store.
-/

namespace GuildRoles

namespace Sorted

variable {α : Type} [Ord α] [Std.LawfulEqOrd α] [DecidableEq α]

/-- The intersection of two sets keeps the elements of the first that the second holds, in the
first one's order. -/
theorem inter_eq_filter (xs ys : List α) : inter xs ys = xs.filter fun x => x ∈ ys := by
  unfold inter
  congr 1
  funext x
  rw [Bool.eq_iff_iff, contains_iff, decide_eq_true_iff]

end Sorted

/-! ### Lists of roles -/

/-- Among roles listed in the order of their short names, the first one of a role's short name is
that role. -/
theorem find?_shortName {l : List Role} (hl : l.Pairwise fun a b => a.shortName < b.shortName)
    {r : Role} (hr : r ∈ l) : l.find? (fun a => a.shortName == r.shortName) = some r := by
  induction l with
  | nil => cases hr
  | cons a l ih =>
    rw [List.pairwise_cons] at hl
    rcases List.mem_cons.1 hr with rfl | hr
    · simp
    · have hne : a.shortName ≠ r.shortName := fun h => String.lt_irrefl _ (h ▸ hl.1 r hr)
      simp [hne, ih hl.2 hr]

/-- A fold that keeps, one by one, the roles of a list that pass a test keeps all of them, in the
list's order. -/
theorem foldlM_keeps {f : List Role → Role → Except SyncError (List Role)} {p : Role → Bool} :
    ∀ {l : List Role}, (∀ acc, ∀ r ∈ l, f acc r = .ok (if p r then acc ++ [r] else acc)) →
      ∀ acc, l.foldlM f acc = .ok (acc ++ l.filter p)
  | [], _, acc => by simp [pure, Except.pure]
  | r :: l, hf, acc => by
    rw [List.foldlM_cons, hf acc r List.mem_cons_self]
    simp only [bind, Except.bind]
    rw [foldlM_keeps (fun acc r' hr' => hf acc r' (List.mem_cons_of_mem _ hr'))]
    cases hp : p r <;> simp [hp]

namespace Store

/-- The users a role of a namespace stands for: the members of its first filter that its second
filter holds, or the members of the one filter it names when the other side is the wildcard. A
role with the wildcard on both sides stands for nobody. -/
def roleMembers (s : Store) (ns : Namespace) (r : Role) : MemberSet :=
  match r.filterA, r.filterB with
  | .named a, .named b => (s.filterMembers ns a).filter fun u => u ∈ s.filterMembers ns b
  | .named a, .wildcard => s.filterMembers ns a
  | .wildcard, .named b => s.filterMembers ns b
  | .wildcard, .wildcard => []

variable {s : Store} {ns : Namespace}

/-! ### Resolving the roles of a well-formed store -/

/-- On a well-formed store a role of a namespace resolves to the users it stands for. -/
theorem resolve_eq_roleMembers (hs : s.WellFormed) {r : Role} (hr : r ∈ s.listRoles ns) :
    Cycle.resolve s ns r = .ok (s.roleMembers ns r) := by
  obtain ⟨hw, hf⟩ := filterExists_of_mem_listRoles hs hr
  rw [resolve_eq]
  -- one case per pair of references; every filter the role names exists
  cases ha : r.filterA <;> cases hb : r.filterB <;>
    simp only [Role.referencedFilters, ha, hb, FilterRef.name?, FilterRef.isWildcard, List.filterMap_cons,
      List.filterMap_nil, List.mem_cons, List.not_mem_nil, or_false, forall_eq_or_imp, forall_eq] at hf hw
  case wildcard.wildcard => cases hw
  all_goals
    simp [Role.members, Membership.resolve, Membership.members, Role.referencedFilters, roleMembers, ha, hb,
      FilterRef.name?, hf, bind, Except.bind, pure, Except.pure, Sorted.inter_eq_filter]

/-- The engine looks a role up among the listed roles of a store. -/
theorem role_eq (short : String) :
    PolicyView.role s ns short = match (s.listRoles ns).find? (fun r => r.shortName == short) with
      | some r => .ok r
      | none => .error (.roleNotFound short) :=
  rfl

theorem roleMembership_of_mem (hs : s.WellFormed) {r : Role} (hr : r ∈ s.listRoles ns) :
    roleMembership s ns r.shortName = .ok (s.roleMembers ns r) := by
  -- short names are unique, so looking a role up by its short name finds it
  have hrole : PolicyView.role s ns r.shortName = .ok r := by
    rw [role_eq, find?_shortName hs.listRoles_sorted hr]
  simp [roleMembership, hrole, bind, Except.bind, resolve_eq_roleMembers hs hr]

theorem roleMembership_of_not_mem {short : String} (h : ∀ r ∈ s.listRoles ns, r.shortName ≠ short) :
    roleMembership s ns short = .error (.policyStore (.roleNotFound short)) := by
  have hnone : (s.listRoles ns).find? (fun a => a.shortName == short) = none :=
    List.find?_eq_none.2 fun r hr => by simpa using h r hr
  have hrole : PolicyView.role s ns short = .error (.roleNotFound short) := by
    rw [role_eq, hnone]
  simp [roleMembership, hrole, bind, Except.bind]

/-- On a well-formed store the roles of a user are the listed roles that hold the user. -/
theorem userRoles_eq (hs : s.WellFormed) (u : UserId) :
    userRoles s ns u = .ok ((s.listRoles ns).filter fun r => u ∈ s.roleMembers ns r) := by
  -- the listed roles already come in the order of their short names, so sorting keeps them
  have hsorted : (s.listRoles ns).mergeSort (fun a b => compare a.shortName b.shortName != .gt) =
      s.listRoles ns :=
    List.mergeSort_of_pairwise (hs.listRoles_sorted.imp fun {a b} h => by
      have hlt : compare a.shortName b.shortName = .lt := compareOfLessAndEq_eq_lt.2 h
      simp [hlt])
  simp only [userRoles, PolicyView.listRoles, Except.mapError_ok, bind, Except.bind, hsorted]
  exact foldlM_keeps (fun acc r hr => by simp [resolve_eq_roleMembers hs hr]) []

end Store

/-! ### How a cycle stops -/

namespace Cycle

variable {c : SyncConfig} {store : Store} {ns : Namespace}

/-- The membership phase stops on a refusal of the guild or on a role of the policy it cannot
resolve. -/
theorem syncMembers_error {st st' : CycleState} {e : SyncError}
    (h : (syncMembers c store ns).run.run st = (.error e, st')) :
    (∃ ge, e = .platformFatal ge) ∨ policyOf store ns (c.synced store ns) [] = .error e := by
  simp only [syncMembers, run_bind, run_now, run_send, run_get, run_set, run_since, syncEnabledRoles_eq,
    run_lift_ok] at h
  rcases hm : c.session.members st.guild with ⟨ge | members, g'⟩
  · simp only [hm, run_fatal_error] at h
    cases h
    exact .inl ⟨ge, rfl⟩
  simp only [hm, run_fatal_ok] at h
  rcases hr : Session.roles g' with ge | M
  · simp only [hr, run_fatal_error] at h
    cases h
    exact .inl ⟨ge, rfl⟩
  simp only [hr, run_fatal_ok] at h
  rcases hp : policyOf store ns (c.synced store ns) [] with e' | policy
  · simp only [hp, run_lift_error] at h
    cases h
    exact .inr rfl
  -- the updates never stop the phase
  simp only [hp, run_lift_ok, run_record] at h
  split at h
  · cases h
  · rename_i hu
    cases updateMembers_ok hu

/-- On a well-formed store a cycle stops only on a fatal error of the guild. -/
theorem runCycle_error_platformFatal (hs : store.WellFormed) (c : SyncConfig) (g : Guild) {ce : CycleError}
    (h : (runCycle c store ns g).result = .error ce) : ∃ ge, ce.error = .platformFatal ge := by
  rcases runCycle_cases c store ns g with ⟨e, st₁, h₁, hres, -⟩ | ⟨e, st₁, st₂, -, h₂, hres, -⟩ |
    ⟨st₁, st₂, -, -, hres, -⟩
  · -- the role phase stops only on a refusal of the guild
    obtain ⟨-, -, -, -, -, -, -, -, hr⟩ := syncRoles_tally h₁
    cases hres.symm.trans h
    exact hr e rfl
  · -- the membership phase resolves every role of a well-formed store
    cases hres.symm.trans h
    rcases syncMembers_error h₂ with hf | hp
    · exact hf
    · obtain ⟨policy, hp'⟩ := policyOf_isOk hs (fun r hr => (List.mem_filter.1 hr).1) []
      cases hp.symm.trans hp'
  · cases hres.symm.trans h

end Cycle

/-! ### Reachable stores -/

namespace Store

variable {s : Store}

/-- On a store reached through its administrative calls, every role of a namespace resolves to
the users it stands for. So the members of a short name are those of its role, and they are
refused only when no role has that short name; the roles of a user never fail to be listed, and
they are exactly the roles whose members include the user, in the order of their short names;
and a cycle on the namespace stops only on a fatal error of the guild, never on the policy. -/
theorem Reachable.resolves_roleMembers (hst : s.Reachable) (ns : Namespace) (u : UserId) :
    (∀ r ∈ s.listRoles ns, Cycle.resolve s ns r = .ok (s.roleMembers ns r)) ∧
    (∀ short, (∃ r ∈ s.listRoles ns, r.shortName = short ∧
        roleMembership s ns short = .ok (s.roleMembers ns r)) ∨
      ((∀ r ∈ s.listRoles ns, r.shortName ≠ short) ∧
        roleMembership s ns short = .error (.policyStore (.roleNotFound short)))) ∧
    (∃ L, userRoles s ns u = .ok L ∧ L.Pairwise (fun a b => a.shortName < b.shortName) ∧
      ∀ r, r ∈ L ↔ r ∈ s.listRoles ns ∧ ∃ M, roleMembership s ns r.shortName = .ok M ∧ u ∈ M) ∧
    ∀ (c : SyncConfig) (g : Guild) (ce : CycleError), (runCycle c s ns g).result = .error ce →
      ∃ ge, ce.error = .platformFatal ge := by
  have hs := hst.wellFormed
  refine ⟨fun r hr => resolve_eq_roleMembers hs hr, fun short => ?_,
    ⟨_, userRoles_eq hs u, hs.listRoles_sorted.filter _, fun r => ?_⟩,
    fun c g ce h => Cycle.runCycle_error_platformFatal hs c g h⟩
  · -- a short name either has a role or none
    by_cases h : ∃ r ∈ s.listRoles ns, r.shortName = short
    · obtain ⟨r, hr, rfl⟩ := h
      exact .inl ⟨r, hr, rfl, roleMembership_of_mem hs hr⟩
    · have hnone : ∀ r ∈ s.listRoles ns, r.shortName ≠ short := fun r hr hn => h ⟨r, hr, hn⟩
      exact .inr ⟨hnone, roleMembership_of_not_mem hnone⟩
  · rw [List.mem_filter, decide_eq_true_iff]
    constructor
    · rintro ⟨hr, hu⟩
      exact ⟨hr, _, roleMembership_of_mem hs hr, hu⟩
    · rintro ⟨hr, M, hM, hu⟩
      rw [roleMembership_of_mem hs hr] at hM
      cases hM
      exact ⟨hr, hu⟩

theorem resolves_roleMembers_twoRoleStore : Cycle.twoRoleStore.Reachable ∧
    (∀ r ∈ Cycle.twoRoleStore.listRoles "corp",
      Cycle.resolve Cycle.twoRoleStore "corp" r = .ok (Cycle.twoRoleStore.roleMembers "corp" r)) ∧
    (∀ short, (∃ r ∈ Cycle.twoRoleStore.listRoles "corp", r.shortName = short ∧
        roleMembership Cycle.twoRoleStore "corp" short = .ok (Cycle.twoRoleStore.roleMembers "corp" r)) ∨
      ((∀ r ∈ Cycle.twoRoleStore.listRoles "corp", r.shortName ≠ short) ∧
        roleMembership Cycle.twoRoleStore "corp" short = .error (.policyStore (.roleNotFound short)))) ∧
    (∃ L, userRoles Cycle.twoRoleStore "corp" ⟨"1"⟩ = .ok L ∧
      L.Pairwise (fun a b => a.shortName < b.shortName) ∧
      ∀ r, r ∈ L ↔ r ∈ Cycle.twoRoleStore.listRoles "corp" ∧
        ∃ M, roleMembership Cycle.twoRoleStore "corp" r.shortName = .ok M ∧ ⟨"1"⟩ ∈ M) ∧
    ∀ (c : SyncConfig) (g : Guild) (ce : CycleError),
      (runCycle c Cycle.twoRoleStore "corp" g).result = .error ce → ∃ ge, ce.error = .platformFatal ge :=
  ⟨Cycle.twoRoleStore_reachable, Reachable.resolves_roleMembers Cycle.twoRoleStore_reachable "corp" ⟨"1"⟩⟩

end Store

end GuildRoles

import GuildRoles.Proofs.MemberFrame

/-!
# What a cycle's report accounts for

A cycle notes in its report what it did: the roles it created, deleted and edited, the members
whose roles it replaced, and the errors it carried on after. The report and the guild's log of
accepted changes tell the same story, whatever the guild was told to refuse, whichever roles
are hidden or share a name, and however long role edits take:

* the log grows by exactly the report's changes (`Report.changes`), in the report's order:
  creations, deletions, edits, then member updates;
* every error the report notes lets the cycle carry on, and the error a stopped cycle returns is
  one that stops it;
* a cycle stopped in the role phase asked for no member page and updated no member;
* a cycle goes through exactly when it gets to plan its member updates (`Cycle.cyclePlan`), and
  then every update of the plan went through or is noted once as failed, the updates after a
  failed one tried as well.

Each loop of a cycle has its own rule for errors: a name clash on creation is noted, any other
refusal of a role change stops the phase, and a refused member update is noted. Each loop has
its own tally (`createRoles_tally`, …), and `runCycle_report_accounts` puts them together.
-/

namespace GuildRoles

/-- The member whose update failed, for the error of a failed member update. -/
def SyncError.failedUser? : SyncError → Option UserId
  | .partialMemberUpdateFailure u _ => some u
  | _ => none

namespace Report

/-- The changes a report accounts for, given the ids each updated member was given: its
creations, deletions and edits of roles, then its member updates. -/
def changes (r : Report) (ids : List (List RoleId)) : List Mutation :=
  r.addedRoles.map .createRole ++ r.removedRoles.map .deleteRole ++ r.updatedRoles.map .editRole ++
    List.zipWith .setMemberRoles r.updatedUsers ids

/-- The members whose update the report notes as failed, in order. -/
def failedUsers (r : Report) : List UserId := r.errors.filterMap SyncError.failedUser?

end Report

/-- The report a cycle returned: whole, or with the error that stopped it. -/
def CycleOutcome.report (o : CycleOutcome) : Report :=
  match o.result with
  | .ok r => r
  | .error e => e.report

namespace Guild

/-- What the guild answers a member update, the changed guild left out. -/
def memberVerdict (g : Guild) (up : MemberUpdate) : Except GuildError Unit :=
  (g.setMemberRoles up.userId up.roleIds).map fun _ => ()

/-- The verdict on a member update depends only on what the guild was told to refuse, its roles,
and which members it has. -/
theorem memberVerdict_congr {g g' : Guild} (hf : g'.faults = g.faults) (hr : g'.roles = g.roles)
    (hm : ∀ u, (Sorted.get? u g'.members).isSome = (Sorted.get? u g.members).isSome)
    (up : MemberUpdate) : g'.memberVerdict up = g.memberVerdict up := by
  unfold memberVerdict setMemberRoles hasRole
  rw [hf, hr]
  split
  · rfl
  split
  · rfl
  have := hm up.userId
  cases h₁ : Sorted.get? up.userId g'.members <;> cases h₂ : Sorted.get? up.userId g.members <;>
    simp_all [Except.map]

/-- A member update the guild accepts changes no verdict: it replaces the seat of a member the
guild has. -/
theorem memberVerdict_setMemberRoles {g g' : Guild} {u : UserId} {ids : List RoleId}
    (h : g.setMemberRoles u ids = .ok g') : g'.memberVerdict = g.memberVerdict := by
  obtain ⟨-, -, s, hs, rfl⟩ := setMemberRoles_eq_ok h
  funext up
  refine memberVerdict_congr ?_ ?_ (fun v => ?_) up
  · rfl
  · rfl
  by_cases hv : v = u
  · subst hv
    simp [Sorted.get?_put, hs]
  · simp [Sorted.get?_put_ne hv]

end Guild

namespace Cycle

/-- The error a member update is noted with when the guild refuses it. -/
def refusal (g : Guild) (up : MemberUpdate) : Option SyncError :=
  match g.memberVerdict up with
  | .ok () => none
  | .error e => some (.partialMemberUpdateFailure up.userId e)

section Loops

variable {st st' : CycleState} {r : Except SyncError Unit} {L : List String}

/-- `createRoles` notes each role it created and each name clash, and the log grows by exactly
its creations; any other refusal stops it with a fatal error of the guild. -/
theorem createRoles_tally (h : (createRoles L).run.run st = (r, st')) :
    ∃ added errs, st'.report = { st.report with
        addedRoles := st.report.addedRoles ++ added, errors := st.report.errors ++ errs } ∧
      st'.guild.mutations = st.guild.mutations ++ added.map .createRole ∧
      st'.guild.memberPageRequests = st.guild.memberPageRequests ∧
      (∀ e ∈ errs, ∃ ge, e = .platformTransient ge) ∧ ∀ e, r = .error e → ∃ ge, e = .platformFatal ge := by
  induction L generalizing st with
  | nil =>
    simp only [createRoles, run_pure] at h
    cases h
    exact ⟨[], [], by simp, by simp, rfl, by simp, by simp⟩
  | cons n L ih =>
    simp only [createRoles, run_bind, run_get] at h
    split at h
    · rename_i g' hc
      simp only [run_bind, run_modify, run_record] at h
      obtain ⟨added, errs, hrep, hmut, hpages, herrs, hr⟩ := ih h
      have hcreate : st.guild.createRole n = .ok g' := by
        rcases Session.createRole_eq_ok hc with ⟨-, hc⟩ | ⟨hc, -⟩
        · exact hc
        · cases hc
      obtain ⟨-, -, hg'⟩ := Guild.createRole_eq_ok hcreate
      refine ⟨n :: added, errs, by rw [hrep]; simp, ?_, by rw [hpages, hg'], herrs, hr⟩
      rw [hmut, hg']
      simp
    · -- a name clash is noted and the guild stays as it was
      simp only [run_bind, run_send, run_record] at h
      obtain ⟨added, errs, hrep, hmut, hpages, herrs, hr⟩ := ih h
      refine ⟨added, SyncError.ofGuild (.roleExists n) :: errs, by rw [hrep]; simp, hmut, hpages,
        fun e he => ?_, hr⟩
      rcases List.mem_cons.1 he with rfl | he
      · exact ⟨_, rfl⟩
      · exact herrs e he
    · simp only [run_bind, run_throw] at h
      cases h
      exact ⟨[], [], by simp, by simp, rfl, by simp, fun e he => ⟨_, (Except.error.inj he).symm⟩⟩

/-- `deleteRoles` notes each role it deleted, and the log grows by exactly its deletions; a
refusal stops it with a fatal error of the guild. -/
theorem deleteRoles_tally (h : (deleteRoles L).run.run st = (r, st')) :
    ∃ removed, st'.report = { st.report with removedRoles := st.report.removedRoles ++ removed } ∧
      st'.guild.mutations = st.guild.mutations ++ removed.map .deleteRole ∧
      st'.guild.memberPageRequests = st.guild.memberPageRequests ∧
      ∀ e, r = .error e → ∃ ge, e = .platformFatal ge := by
  induction L generalizing st with
  | nil =>
    simp only [deleteRoles, run_pure] at h
    cases h
    exact ⟨[], by simp, by simp, rfl, by simp⟩
  | cons n L ih =>
    simp only [deleteRoles, run_bind, run_onGuild] at h
    rcases hd : st.guild.deleteRole n with e | g'
    · simp only [hd] at h
      cases h
      exact ⟨[], by simp, by simp, rfl, fun e' he => ⟨e, (Except.error.inj he).symm⟩⟩
    · simp only [hd, run_record] at h
      obtain ⟨removed, hrep, hmut, hpages, hr⟩ := ih h
      obtain ⟨-, _, -, hg'⟩ := Guild.deleteRole_eq_ok hd
      refine ⟨n :: removed, by rw [hrep]; simp, ?_, by rw [hpages, hg'], hr⟩
      rw [hmut, hg']
      simp

/-- `editRoles` notes each role it edited, and the log grows by exactly its edits, each logged by
the name it was asked to edit; a refusal or a timeout stops it with a fatal error of the guild. -/
theorem editRoles_tally {session : Session} {policy : List (String × Role)}
    (hp : ∀ n role, Sorted.get? n policy = some role → role.name = n)
    (h : (editRoles session policy L).run.run st = (r, st')) :
    ∃ edited, st'.report = { st.report with updatedRoles := st.report.updatedRoles ++ edited } ∧
      st'.guild.mutations = st.guild.mutations ++ edited.map .editRole ∧
      st'.guild.memberPageRequests = st.guild.memberPageRequests ∧
      ∀ e, r = .error e → ∃ ge, e = .platformFatal ge := by
  induction L generalizing st with
  | nil =>
    simp only [editRoles, run_pure] at h
    cases h
    exact ⟨[], by simp, by simp, rfl, by simp⟩
  | cons n L ih =>
    simp only [editRoles] at h
    split at h
    · rename_i role hrole
      obtain ⟨clock, hrun⟩ := run_editRole session role.attributes st
      simp only [run_bind, hrun] at h
      rcases he : session.editRole st.guild role.attributes with e | g'
      · simp only [he] at h
        cases h
        exact ⟨[], by simp, by simp, rfl, fun e' he' => ⟨e, (Except.error.inj he').symm⟩⟩
      · simp only [he, run_record] at h
        obtain ⟨edited, hrep, hmut, hpages, hr⟩ := ih h
        obtain ⟨-, _, -, hg'⟩ := Guild.editRole_eq_ok (Session.editRole_eq_ok he)
        refine ⟨n :: edited, by rw [hrep]; simp, ?_, by rw [hpages, hg'], hr⟩
        -- the edit is logged by the role's display name, the name the policy keeps it under
        rw [hmut, hg', show role.attributes.name = n from hp n role hrole]
        simp
    · -- a name the policy does not keep is passed over
      exact ih h

/-- `updateMembers` tries every update of its list, whatever came of the ones before: each one the
guild accepts is noted among the updated members and logged, each one it refuses is noted as a
failure, and the loop never stops the cycle. The guild's verdicts are those of the guild the loop
started on, since a member update changes none of them. -/
theorem updateMembers_tally {ups : List MemberUpdate} (h : (updateMembers ups).run.run st = (r, st')) :
    r = .ok () ∧
      st'.report = { st.report with
        updatedUsers := st.report.updatedUsers ++
          (ups.filter fun up => (st.guild.memberVerdict up).isOk).map MemberUpdate.userId,
        errors := st.report.errors ++ ups.filterMap (refusal st.guild) } ∧
      st'.guild.mutations = st.guild.mutations ++
        (ups.filter fun up => (st.guild.memberVerdict up).isOk).map
          (fun up => .setMemberRoles up.userId up.roleIds) ∧
      st'.guild.memberPageRequests = st.guild.memberPageRequests := by
  induction ups generalizing st with
  | nil =>
    simp only [updateMembers, run_pure] at h
    cases h
    simp
  | cons up ups ih =>
    simp only [updateMembers, run_bind, run_get] at h
    rcases hs : st.guild.setMemberRoles up.userId up.roleIds with e | g'
    · -- a refused update is noted and changes nothing
      have hv : st.guild.memberVerdict up = .error e := by simp [Guild.memberVerdict, hs, Except.map]
      simp only [hs] at h
      obtain ⟨hr, hrep, hmut, hpages⟩ := ih h
      refine ⟨hr, ?_, ?_, hpages⟩
      · rw [hrep]
        simp [hv, refusal, Except.isOk, Except.toBool]
      · rw [hmut]
        simp [hv, Except.isOk, Except.toBool]
    · have hv : st.guild.memberVerdict up = .ok () := by simp [Guild.memberVerdict, hs, Except.map]
      simp only [hs, run_bind, run_modify, run_record] at h
      obtain ⟨hr, hrep, hmut, hpages⟩ := ih h
      obtain ⟨-, -, _, -, hg'⟩ := Guild.setMemberRoles_eq_ok hs
      -- the rest of the list meets the same verdicts on the updated guild
      have hsame := Guild.memberVerdict_setMemberRoles hs
      have hrefusal : refusal g' = refusal st.guild := by
        unfold refusal
        rw [hsame]
      rw [hsame, hrefusal] at hrep
      rw [hsame] at hmut
      refine ⟨hr, ?_, ?_, by rw [hpages, hg']⟩
      · rw [hrep]
        simp [hv, refusal, Except.isOk, Except.toBool]
      · rw [hmut, hg']
        simp [hv, Except.isOk, Except.toBool]

end Loops

section Phases

variable {c : SyncConfig} {store : Store} {ns : Namespace} {st st' : CycleState}
  {r : Except SyncError Unit}

/-- The plan the membership phase makes when it starts on a guild: from every member, the role
map and the names the policy wants each user to hold; none when the guild refuses to list its
members or its roles, or a role of the policy cannot be resolved. -/
def planOn (c : SyncConfig) (store : Store) (ns : Namespace) (g : Guild) : Option MemberPlan :=
  match g.faults.listMembers, Session.roles g, policyOf store ns (c.synced store ns) [] with
  | none, .ok M, .ok policy => some (MemberPlan.ofSnapshot (memberSnapshot c store ns g M policy))
  | _, _, _ => none

/-- The plan of a cycle's membership phase: the plan on the guild the role phase leaves, when
the role phase went through. -/
def cyclePlan (c : SyncConfig) (store : Store) (ns : Namespace) (g : Guild) : Option MemberPlan :=
  match (syncRoles c store ns).run.run { guild := g } with
  | (.ok (), st) => planOn c store ns st.guild
  | (.error _, _) => none

/-- The role phase notes each role it created, deleted and edited and each name clash, and the
log grows by exactly its creations, deletions and edits, in that order; it asks for no member
page, and it stops only on a fatal error of the guild. -/
theorem syncRoles_tally (h : (syncRoles c store ns).run.run st = (r, st')) :
    ∃ added removed edited errs, st'.report = { st.report with
        addedRoles := st.report.addedRoles ++ added, removedRoles := st.report.removedRoles ++ removed,
        updatedRoles := st.report.updatedRoles ++ edited, errors := st.report.errors ++ errs } ∧
      st'.guild.mutations = st.guild.mutations ++ added.map .createRole ++ removed.map .deleteRole ++
        edited.map .editRole ∧
      st'.guild.memberPageRequests = st.guild.memberPageRequests ∧
      (∀ e ∈ errs, ∃ ge, e = .platformTransient ge) ∧ ∀ e, r = .error e → ∃ ge, e = .platformFatal ge := by
  simp only [syncRoles, run_bind, run_now, run_send, run_get, syncEnabledRoles_eq, run_lift_ok] at h
  rcases hm : Session.roles st.guild with e | M
  · simp only [hm, run_fatal_error] at h
    cases h
    exact ⟨[], [], [], [], by simp, by simp, rfl, by simp, fun e' he => ⟨e, (Except.error.inj he).symm⟩⟩
  simp only [hm, run_fatal_ok] at h
  -- the policy keeps each role under its display name
  have hp : ∀ n role, Sorted.get? n (Sorted.mapOfList ((c.synced store ns).map fun r => (r.name, r))) =
      some role → role.name = n := by
    intro n role hrole
    obtain ⟨r', -, hr'⟩ := List.mem_map.1 (Sorted.mem_of_get?_mapOfList hrole)
    cases hr'
    rfl
  -- the phase stops after the first loop that fails
  split at h
  · rename_i st₁ h₁
    obtain ⟨added, errs, hrep₁, hmut₁, hpages₁, herrs, -⟩ := createRoles_tally h₁
    split at h
    · rename_i st₂ h₂
      obtain ⟨removed, hrep₂, hmut₂, hpages₂, -⟩ := deleteRoles_tally h₂
      split at h
      · rename_i st₃ h₃
        obtain ⟨edited, hrep₃, hmut₃, hpages₃, -⟩ := editRoles_tally hp h₃
        simp only [run_since] at h
        cases h
        refine ⟨added, removed, edited, errs, ?_, ?_, ?_, herrs, fun e he => by cases he⟩
        · rw [hrep₃, hrep₂, hrep₁]
        · rw [hmut₃, hmut₂, hmut₁]
        · rw [hpages₃, hpages₂, hpages₁]
      · rename_i e st₃ h₃
        obtain ⟨edited, hrep₃, hmut₃, hpages₃, hr₃⟩ := editRoles_tally hp h₃
        cases h
        refine ⟨added, removed, edited, errs, ?_, ?_, ?_, herrs, fun e' he => ?_⟩
        · rw [hrep₃, hrep₂, hrep₁]
        · rw [hmut₃, hmut₂, hmut₁]
        · rw [hpages₃, hpages₂, hpages₁]
        · cases he
          exact hr₃ e rfl
    · rename_i e st₂ h₂
      obtain ⟨removed, hrep₂, hmut₂, hpages₂, hr₂⟩ := deleteRoles_tally h₂
      cases h
      refine ⟨added, removed, [], errs, ?_, ?_, ?_, herrs, fun e' he => ?_⟩
      · rw [hrep₂, hrep₁]
        simp
      · rw [hmut₂, hmut₁]
        simp
      · rw [hpages₂, hpages₁]
      · cases he
        exact hr₂ e rfl
  · rename_i e st₁ h₁
    obtain ⟨added, errs, hrep₁, hmut₁, hpages₁, herrs, hr₁⟩ := createRoles_tally h₁
    cases h
    refine ⟨added, [], [], errs, ?_, ?_, hpages₁, herrs, fun e' he => ?_⟩
    · rw [hrep₁]
      simp
    · rw [hmut₁]
      simp
    · cases he
      exact hr₁ e rfl

/-- The membership phase on a well-formed guild either stops before its updates, with nothing
noted and nothing logged, on a refusal of the guild or on a role of the policy it cannot resolve,
exactly when it cannot plan; or it makes the plan `planOn`, notes the plan's skipped members and
the names held-back members hold without an id, and then runs every update of the plan, as
`updateMembers_tally` says. -/
theorem syncMembers_tally (hg : st.guild.WellFormed) (h : (syncMembers c store ns).run.run st = (r, st')) :
    (planOn c store ns st.guild = none ∧ st'.report = st.report ∧ st'.guild.mutations = st.guild.mutations ∧
      ∃ e, r = .error e ∧ ((∃ ge, e = .platformFatal ge) ∨ policyOf store ns (c.synced store ns) [] = .error e)) ∨
    ∃ P, planOn c store ns st.guild = some P ∧ r = .ok () ∧
      ∃ noted, (∀ e ∈ noted, ∃ ge, e = .platformTransient ge) ∧
      st'.report = { st.report with
        updatedUsers := st.report.updatedUsers ++
          (P.updates.filter fun up => (st.guild.memberVerdict up).isOk).map MemberUpdate.userId,
        skippedUsers := st.report.skippedUsers ++ P.skipped,
        errors := st.report.errors ++ noted ++ P.updates.filterMap (refusal st.guild) } ∧
      st'.guild.mutations = st.guild.mutations ++
        (P.updates.filter fun up => (st.guild.memberVerdict up).isOk).map
          (fun up => .setMemberRoles up.userId up.roleIds) := by
  simp only [syncMembers, run_bind, run_now, run_send, run_get, run_set, run_since, syncEnabledRoles_eq,
    run_lift_ok] at h
  cases hf : st.guild.faults.listMembers with
  | some e =>
    rw [Session.members_eq_error c.session hf] at h
    simp only [run_fatal_error] at h
    cases h
    exact .inl ⟨by simp [planOn, hf], rfl, rfl, _, rfl, .inl ⟨e, rfl⟩⟩
  | none =>
    rw [Session.members_eq_ok c.session hg hf (session_pageSize c).1 (session_pageSize c).2] at h
    simp only [run_fatal_ok] at h
    -- counting page requests changes neither the role map nor any verdict
    generalize hg₀ : { st.guild with memberPageRequests :=
      st.guild.memberPageRequests + (st.guild.members.length / c.session.pageSize + 1) } = g₀ at h
    have hroles : Session.roles g₀ = Session.roles st.guild := by rw [← hg₀]; rfl
    have hverdict : g₀.memberVerdict = st.guild.memberVerdict := by
      funext up
      exact Guild.memberVerdict_congr (by rw [← hg₀]) (by rw [← hg₀]) (fun _ => by rw [← hg₀]) up
    have hmut₀ : g₀.mutations = st.guild.mutations := by rw [← hg₀]
    rw [hroles] at h
    rcases hm : Session.roles st.guild with e | M
    · simp only [hm, run_fatal_error] at h
      cases h
      exact .inl ⟨by simp [planOn, hf, hm], rfl, hmut₀, _, rfl, .inl ⟨e, rfl⟩⟩
    simp only [hm, run_fatal_ok] at h
    rcases hp : policyOf store ns (c.synced store ns) [] with e | policy
    · simp only [hp, run_lift_error] at h
      cases h
      exact .inl ⟨by simp [planOn, hf, hm, hp], rfl, hmut₀, _, rfl, .inr rfl⟩
    simp only [hp, run_lift_ok, run_record] at h
    split at h
    · rename_i st₂ hu
      cases h
      obtain ⟨-, hrep, hmut, -⟩ := updateMembers_tally hu
      have hrefusal : refusal g₀ = refusal st.guild := by
        unfold refusal
        rw [hverdict]
      rw [hverdict, hrefusal] at hrep
      rw [hverdict, hmut₀] at hmut
      refine .inr ⟨_, by simp [planOn, hf, hm, hp, memberSnapshot], rfl, _, fun e he => ?_, by rw [hrep], hmut⟩
      -- the names held-back members hold without an id are noted as transient errors
      obtain ⟨n, -, rfl⟩ := List.mem_map.1 he
      exact ⟨_, rfl⟩
    · rename_i hu
      cases updateMembers_ok hu

theorem planOn_eq_some {g : Guild} {P : MemberPlan} (h : planOn c store ns g = some P) :
    ∃ M policy, P = MemberPlan.ofSnapshot (memberSnapshot c store ns g M policy) := by
  unfold planOn at h
  split at h
  · cases h
    exact ⟨_, _, rfl⟩
  · cases h

/-- A plan of a cycle on a well-formed guild updates each member at most once. -/
theorem cyclePlan_nodup {g : Guild} {P : MemberPlan} (hg : g.WellFormed) (h : cyclePlan c store ns g = some P) :
    (P.updates.map MemberUpdate.userId).Nodup := by
  unfold cyclePlan at h
  split at h
  · rename_i st₁ h₁
    obtain ⟨M, policy, rfl⟩ := planOn_eq_some h
    obtain ⟨cs, ht, -⟩ := syncRoles_evolves h₁
    exact updates_nodup (ht.wellFormed hg).1
  · cases h

end Phases

/-! ### Errors -/

section Errors

variable {store : Store} {ns : Namespace}

/-- Every error of the resolution of a role stops the cycle. -/
theorem resolve_error_fatal {r : Role} {e : SyncError} (h : resolve store ns r = .error e) :
    e.isFatal = true := by
  rw [Store.resolve_eq] at h
  unfold Except.mapError at h
  split at h
  · cases h
    rename_i m _
    cases m <;> rfl
  · cases h

theorem policyOf_error_fatal {roles : List Role} {acc : List (UserId × List String)} {e : SyncError}
    (h : policyOf store ns roles acc = .error e) : e.isFatal = true := by
  induction roles generalizing acc with
  | nil => cases h
  | cons r roles ih =>
    simp only [policyOf, bind, Except.bind] at h
    split at h
    · cases h
      exact resolve_error_fatal ‹_›
    · exact ih h

theorem failedUsers_transient {errs : List SyncError} (h : ∀ e ∈ errs, ∃ ge, e = .platformTransient ge) :
    errs.filterMap SyncError.failedUser? = [] :=
  List.filterMap_eq_nil_iff.2 fun e he => by
    obtain ⟨ge, rfl⟩ := h e he
    rfl

/-- The refused updates of a list are noted as failures of their members, in order. -/
theorem failedUsers_refusals (g : Guild) (ups : List MemberUpdate) :
    (ups.filterMap (refusal g)).filterMap SyncError.failedUser? =
      (ups.filter fun up => !(g.memberVerdict up).isOk).map MemberUpdate.userId := by
  induction ups with
  | nil => rfl
  | cons up ups ih =>
    cases hv : g.memberVerdict up <;>
      simp [refusal, hv, ih, SyncError.failedUser?, Except.isOk, Except.toBool]

theorem refusal_not_fatal {g : Guild} {ups : List MemberUpdate} :
    ∀ e ∈ ups.filterMap (refusal g), e.isFatal = false := by
  intro e he
  obtain ⟨up, -, hr⟩ := List.mem_filterMap.1 he
  unfold refusal at hr
  split at hr
  · cases hr
  · cases hr
    rfl

end Errors

/-! ### Whole cycles -/

section Cycles

variable {σ : Type} [PolicyView σ] (c : SyncConfig) (store : σ) (ns : Namespace)

/-- How a cycle ends: stopped in the role phase, stopped in the membership phase, or through,
with the states its phases left. -/
theorem runCycle_cases (g : Guild) :
    (∃ e st₁, (syncRoles c store ns).run.run { guild := g } = (.error e, st₁) ∧
      (runCycle c store ns g).result = .error ⟨.roleDefinitions, e, st₁.report⟩ ∧
      (runCycle c store ns g).guild = st₁.guild) ∨
    (∃ e st₁ st₂, (syncRoles c store ns).run.run { guild := g } = (.ok (), st₁) ∧
      (syncMembers c store ns).run.run st₁ = (.error e, st₂) ∧
      (runCycle c store ns g).result = .error ⟨.membership, e, st₂.report⟩ ∧
      (runCycle c store ns g).guild = st₂.guild) ∨
    (∃ st₁ st₂, (syncRoles c store ns).run.run { guild := g } = (.ok (), st₁) ∧
      (syncMembers c store ns).run.run st₁ = (.ok (), st₂) ∧
      (runCycle c store ns g).result = .ok st₂.report ∧ (runCycle c store ns g).guild = st₂.guild) := by
  rcases h₁ : (syncRoles c store ns).run.run { guild := g } with ⟨e | u, st₁⟩
  · exact .inl ⟨e, st₁, rfl, by simp [runCycle, run_eq, h₁], by simp [runCycle, run_eq, h₁]⟩
  · cases u
    rcases h₂ : (syncMembers c store ns).run.run st₁ with ⟨e | u, st₂⟩
    · exact .inr (.inl ⟨e, st₁, st₂, rfl, h₂, by simp [runCycle, run_eq, h₁, h₂],
        by simp [runCycle, run_eq, h₁, h₂]⟩)
    · cases u
      exact .inr (.inr ⟨st₁, st₂, rfl, h₂, by simp [runCycle, run_eq, h₁, h₂],
        by simp [runCycle, run_eq, h₁, h₂]⟩)

end Cycles

section Tallies

variable (c : SyncConfig) (store : Store) (ns : Namespace)

/-- What a cycle on a well-formed guild leaves. The role phase creates, deletes and edits roles
and notes name clashes; then either the cycle has no plan for its members and stopped with a
fatal error, the role phase's changes all it logged, or the membership phase planned `P`, and
each update of `P` went through, logged and noted among the updated members, or was refused and
noted as a failure, by the verdicts of one guild `g₁`. -/
theorem runCycle_tally {g : Guild} (hg : g.WellFormed) :
    ∃ added removed edited noted, (∀ e ∈ noted, ∃ ge, e = .platformTransient ge) ∧
      ((cyclePlan c store ns g = none ∧ ∃ ce, (runCycle c store ns g).result = .error ce ∧
          ce.error.isFatal = true ∧
          ce.report = { addedRoles := added, removedRoles := removed, updatedRoles := edited, errors := noted } ∧
          (runCycle c store ns g).guild.mutations =
            g.mutations ++ added.map .createRole ++ removed.map .deleteRole ++ edited.map .editRole ∧
          (ce.phase = .roleDefinitions →
            (runCycle c store ns g).guild.memberPageRequests = g.memberPageRequests)) ∨
        ∃ P, cyclePlan c store ns g = some P ∧ ∃ (g₁ : Guild) (skipped : List UserId),
          (runCycle c store ns g).result = .ok {
            addedRoles := added, removedRoles := removed, updatedRoles := edited,
            updatedUsers := (P.updates.filter fun up => (g₁.memberVerdict up).isOk).map MemberUpdate.userId,
            skippedUsers := skipped, errors := noted ++ P.updates.filterMap (refusal g₁) } ∧
          (runCycle c store ns g).guild.mutations =
            g.mutations ++ added.map .createRole ++ removed.map .deleteRole ++ edited.map .editRole ++
              (P.updates.filter fun up => (g₁.memberVerdict up).isOk).map
                (fun up => .setMemberRoles up.userId up.roleIds)) := by
  rcases runCycle_cases c store ns g with ⟨e, st₁, h₁, hres, hguild⟩ |
    ⟨e, st₁, st₂, h₁, h₂, hres, hguild⟩ | ⟨st₁, st₂, h₁, h₂, hres, hguild⟩
  · -- stopped in the role phase
    obtain ⟨added, removed, edited, errs, hrep, hmut, hpages, herrs, hr⟩ := syncRoles_tally h₁
    obtain ⟨ge, rfl⟩ := hr e rfl
    refine ⟨added, removed, edited, errs, herrs, .inl ⟨by simp [cyclePlan, h₁], _, hres, rfl, ?_, ?_,
      fun _ => by rw [hguild, hpages]⟩⟩
    · rw [hrep]
      simp
    · rw [hguild, hmut]
  · -- stopped in the membership phase, before its updates
    obtain ⟨added, removed, edited, errs, hrep, hmut, -, herrs, -⟩ := syncRoles_tally h₁
    obtain ⟨cs, ht, -⟩ := syncRoles_evolves h₁
    rcases syncMembers_tally (ht.wellFormed hg).1 h₂ with ⟨hplan, hrep₂, hmut₂, e', he', hfatal⟩ |
      ⟨P, -, hr, -⟩
    · cases he'
      refine ⟨added, removed, edited, errs, herrs, .inl ⟨by simp [cyclePlan, h₁, hplan], _, hres, ?_, ?_, ?_,
        fun h => by cases h⟩⟩
      · rcases hfatal with ⟨ge, rfl⟩ | hp
        · rfl
        · exact policyOf_error_fatal hp
      · rw [hrep₂, hrep]
        simp
      · rw [hguild, hmut₂, hmut]
    · cases hr
  · -- through
    obtain ⟨added, removed, edited, errs, hrep, hmut, -, herrs, -⟩ := syncRoles_tally h₁
    obtain ⟨cs, ht, -⟩ := syncRoles_evolves h₁
    rcases syncMembers_tally (ht.wellFormed hg).1 h₂ with ⟨-, -, -, e', he', -⟩ |
      ⟨P, hplan, -, noted, hnoted, hrep₂, hmut₂⟩
    · cases he'
    refine ⟨added, removed, edited, errs ++ noted, fun e he => ?_,
      .inr ⟨P, by simp [cyclePlan, h₁, hplan], st₁.guild, P.skipped, ?_, ?_⟩⟩
    · rcases List.mem_append.1 he with he | he
      · exact herrs e he
      · exact hnoted e he
    · rw [hres, hrep₂, hrep]
      simp
    · rw [hguild, hmut₂, hmut]

/-- Whatever the guild was told to refuse, whichever roles are hidden or share a name and however
long role edits take, a cycle's report, whole or returned with its error, accounts for the
guild's log: the log grows by exactly the report's creations, deletions and edits of roles and
its member updates, in that order. Every error the report notes lets a cycle carry on, and the
error a stopped cycle returns stops it. A cycle stopped in the role phase asked for no member page
and updated no member, refused or not. A cycle goes through exactly when it plans its member
updates, and then each update of the plan went through or is noted as the failure of its member,
in the plan's order, each member at most once. -/
theorem runCycle_report_accounts {g : Guild} (hg : g.WellFormed) :
    (∃ ids, ids.length = (runCycle c store ns g).report.updatedUsers.length ∧
      (runCycle c store ns g).guild.mutations = g.mutations ++ (runCycle c store ns g).report.changes ids) ∧
    (∀ e ∈ (runCycle c store ns g).report.errors, e.isFatal = false) ∧
    (∀ ce, (runCycle c store ns g).result = .error ce → ce.error.isFatal = true ∧
      (ce.phase = .roleDefinitions →
        (runCycle c store ns g).guild.memberPageRequests = g.memberPageRequests ∧
        (runCycle c store ns g).report.updatedUsers = [] ∧ (runCycle c store ns g).report.failedUsers = [])) ∧
    ((runCycle c store ns g).result.isOk = (cyclePlan c store ns g).isSome) ∧
    ∀ P, cyclePlan c store ns g = some P → (P.updates.map MemberUpdate.userId).Nodup ∧
      ∃ went : MemberUpdate → Bool,
        (runCycle c store ns g).report.updatedUsers = (P.updates.filter went).map MemberUpdate.userId ∧
        (runCycle c store ns g).report.failedUsers =
          (P.updates.filter fun up => !went up).map MemberUpdate.userId := by
  obtain ⟨added, removed, edited, noted, hnoted, hcase⟩ := runCycle_tally c store ns hg
  have hnf : ∀ e ∈ noted, e.isFatal = false := fun e he => by
    obtain ⟨ge, rfl⟩ := hnoted e he
    rfl
  rcases hcase with ⟨hplan, ce, hres, hfatal, hrep, hmut, hpages⟩ | ⟨P, hplan, g₁, skipped, hres, hmut⟩
  · -- no plan: the cycle stopped, and its report holds the role phase's changes alone
    have hreport : (runCycle c store ns g).report = ce.report := by simp [CycleOutcome.report, hres]
    rw [hreport, hrep]
    refine ⟨⟨[], rfl, by rw [hmut]; simp [Report.changes]⟩, hnf, fun ce' hce => ?_,
      by simp [hres, hplan, Except.isOk, Except.toBool], by simp [hplan]⟩
    cases hres.symm.trans hce
    exact ⟨hfatal, fun hphase => ⟨hpages hphase, rfl, failedUsers_transient hnoted⟩⟩
  · -- a plan: the cycle went through, and the report adds the plan's accepted updates
    have hreport : (runCycle c store ns g).report = {
        addedRoles := added, removedRoles := removed, updatedRoles := edited,
        updatedUsers := (P.updates.filter fun up => (g₁.memberVerdict up).isOk).map MemberUpdate.userId,
        skippedUsers := skipped, errors := noted ++ P.updates.filterMap (refusal g₁) } := by
      simp [CycleOutcome.report, hres]
    rw [hreport]
    refine ⟨⟨(P.updates.filter fun up => (g₁.memberVerdict up).isOk).map MemberUpdate.roleIds, by simp,
      by rw [hmut]; simp [Report.changes, List.zipWith_map, List.zipWith_self]⟩, fun e he => ?_,
      fun ce h => by simp [hres] at h, by simp [hres, hplan, Except.isOk, Except.toBool], fun P' hP' => ?_⟩
    · rcases List.mem_append.1 he with he | he
      · exact hnf e he
      · exact refusal_not_fatal e he
    · cases hplan.symm.trans hP'
      refine ⟨cyclePlan_nodup hg hplan, fun up => (g₁.memberVerdict up).isOk, rfl, ?_⟩
      simp [Report.failedUsers, List.filterMap_append, failedUsers_transient hnoted, failedUsers_refusals]

end Tallies

theorem runCycle_report_accounts_hiddenRole : hiddenRoleGuild.WellFormed ∧
    (∃ ids, ids.length = (runCycle {} twoRoleStore "corp" hiddenRoleGuild).report.updatedUsers.length ∧
      (runCycle {} twoRoleStore "corp" hiddenRoleGuild).guild.mutations =
        hiddenRoleGuild.mutations ++ (runCycle {} twoRoleStore "corp" hiddenRoleGuild).report.changes ids) ∧
    (∀ e ∈ (runCycle {} twoRoleStore "corp" hiddenRoleGuild).report.errors, e.isFatal = false) ∧
    (∀ ce, (runCycle {} twoRoleStore "corp" hiddenRoleGuild).result = .error ce → ce.error.isFatal = true ∧
      (ce.phase = .roleDefinitions →
        (runCycle {} twoRoleStore "corp" hiddenRoleGuild).guild.memberPageRequests =
          hiddenRoleGuild.memberPageRequests ∧
        (runCycle {} twoRoleStore "corp" hiddenRoleGuild).report.updatedUsers = [] ∧
        (runCycle {} twoRoleStore "corp" hiddenRoleGuild).report.failedUsers = [])) ∧
    ((runCycle {} twoRoleStore "corp" hiddenRoleGuild).result.isOk =
      (cyclePlan {} twoRoleStore "corp" hiddenRoleGuild).isSome) ∧
    ∀ P, cyclePlan {} twoRoleStore "corp" hiddenRoleGuild = some P →
      (P.updates.map MemberUpdate.userId).Nodup ∧
      ∃ went : MemberUpdate → Bool,
        (runCycle {} twoRoleStore "corp" hiddenRoleGuild).report.updatedUsers =
          (P.updates.filter went).map MemberUpdate.userId ∧
        (runCycle {} twoRoleStore "corp" hiddenRoleGuild).report.failedUsers =
          (P.updates.filter fun up => !went up).map MemberUpdate.userId :=
  ⟨hiddenRoleGuild_wellFormed, runCycle_report_accounts {} twoRoleStore "corp" hiddenRoleGuild_wellFormed⟩

end Cycle

end GuildRoles

import GuildRoles.Sync.Cycle
import GuildRoles.Proofs.GuildState
import GuildRoles.Proofs.MemberFetch
import GuildRoles.Proofs.PolicyState

/-!
# Running a cycle step by step

A cycle is a computation in `CycleM`: it reads and changes a `CycleState` and may stop with an
error. Running one is opened with one lemma per primitive (`run_bind`, `run_modify`, …), never by
unfolding the monad.

Each loop of a cycle moves the guild along a `Guild.Trace`: the changes it made, in order, each
one accepted by the guild. `createRoles_evolves`, `deleteRoles_evolves` and `editRoles_evolves` say that
every change of a loop is of its kind and names one of the loop's roles (a `Guild.Evolves`);
`updateMembers_trace` says that member updates never stop the cycle, that each change is the update of one listed
member, and that a member's seat is, when it is replaced, still the seat the loop started from.
-/

namespace GuildRoles

/-- The roles of the store that a cycle synchronises, in the store's order: those with `sync` set
whose display name is not ignored. -/
def SyncConfig.synced (c : SyncConfig) (store : Store) (ns : Namespace) : List Role :=
  (store.listRoles ns).filter fun r => r.sync && !Sorted.contains r.name c.ignoredRoleNames

namespace Cycle

/-! ### The shape of `CycleM` -/

theorem run_bind {α β : Type} (x : CycleM α) (f : α → CycleM β) (st : CycleState) :
    (x >>= f).run.run st = match x.run.run st with
      | (.ok a, st') => (f a).run.run st'
      | (.error e, st') => (.error e, st') := by
  simp only [ExceptT.run_bind]
  rw [StateT.run_bind]
  rcases x.run.run st with ⟨_ | a, st'⟩ <;> rfl

@[simp] theorem run_pure {α : Type} (a : α) (st : CycleState) :
    (pure a : CycleM α).run.run st = (.ok a, st) := rfl

@[simp] theorem run_get (st : CycleState) : (get : CycleM CycleState).run.run st = (.ok st, st) := rfl

@[simp] theorem run_set (st st' : CycleState) : (set st' : CycleM PUnit).run.run st = (.ok (), st') :=
  rfl

@[simp] theorem run_modify (f : CycleState → CycleState) (st : CycleState) :
    (modify f : CycleM PUnit).run.run st = (.ok (), f st) := rfl

@[simp] theorem run_throw {α : Type} (e : SyncError) (st : CycleState) :
    (throw e : CycleM α).run.run st = (.error e, st) := rfl

@[simp] theorem run_send (p : Progress) (st : CycleState) :
    (send p).run.run st = (.ok (), { st with sent := st.sent ++ [p] }) := rfl

@[simp] theorem run_record (f : Report → Report) (st : CycleState) :
    (record f).run.run st = (.ok (), { st with report := f st.report }) := rfl

@[simp] theorem run_now (st : CycleState) : now.run.run st = (.ok st.clock, st) := rfl

@[simp] theorem run_since (start : Duration) (st : CycleState) :
    (since start).run.run st = (.ok ⟨st.clock.nanos - start.nanos⟩, st) := rfl

@[simp] theorem run_fatal_ok {α : Type} (a : α) (st : CycleState) :
    (fatal (.ok a)).run.run st = (.ok a, st) := rfl

@[simp] theorem run_fatal_error {α : Type} (e : GuildError) (st : CycleState) :
    (fatal (.error e : Except GuildError α)).run.run st = (.error (.platformFatal e), st) := rfl

@[simp] theorem run_lift_ok {α : Type} (a : α) (st : CycleState) :
    (lift (.ok a)).run.run st = (.ok a, st) := rfl

@[simp] theorem run_lift_error {α : Type} (e : SyncError) (st : CycleState) :
    (lift (.error e : Except SyncError α)).run.run st = (.error e, st) := rfl

theorem run_onGuild (f : Guild → Except GuildError Guild) (st : CycleState) :
    (onGuild f).run.run st = match f st.guild with
      | .ok g' => (.ok (), { st with guild := g' })
      | .error e => (.error (.platformFatal e), st) := by
  unfold onGuild
  simp only [run_bind, run_get]
  cases f st.guild <;> rfl

end Cycle

namespace Session

variable {g g' : Guild}

/-- A creation the session answers either created the role or met a role of the name, leaving
the guild as it was. -/
theorem createRole_eq_ok {n : String} {o : CreateOutcome} (h : Session.createRole g n = .ok (o, g')) :
    (o = .created ∧ g.createRole n = .ok g') ∨ (o = .alreadyExists ∧ g' = g) := by
  unfold Session.createRole at h
  split at h
  · cases h
    exact .inl ⟨rfl, ‹_›⟩
  · cases h
    exact .inr ⟨rfl, rfl⟩
  · cases h

theorem editRole_eq_ok {s : Session} {a : RoleAttributes} (h : s.editRole g a = .ok g') :
    g.editRole a = .ok g' := by
  unfold Session.editRole at h
  split at h
  · split at h
    · exact h
    · cases h
  · exact h

end Session

namespace Cycle

/-! ### The loops of a cycle -/

/-- Every change `createRoles` makes creates one of its roles. -/
theorem createRoles_evolves {L : List String} {st st' : CycleState} {r : Except SyncError Unit}
    (h : (createRoles L).run.run st = (r, st')) :
    Guild.Evolves (fun c => ∃ n ∈ L, c.mutation = .createRole n) st.guild st'.guild := by
  induction L generalizing st with
  | nil =>
    simp only [createRoles, run_pure] at h
    cases h
    exact .refl _
  | cons n L ih =>
    simp only [createRoles, run_bind, run_get] at h
    split at h
    · rename_i g' hc
      simp only [run_bind, run_modify, run_record] at h
      have hacc : st.guild.Accepts (.createRole n) g' := by
        rcases Session.createRole_eq_ok hc with ⟨-, h⟩ | ⟨h, -⟩
        · exact h
        · cases h
      refine .cons hacc ⟨n, List.mem_cons_self, rfl⟩ ((ih h).mono fun c ⟨m, hm, he⟩ => ?_)
      exact ⟨m, List.mem_cons_of_mem _ hm, he⟩
    · -- a name clash is noted and the guild stays as it was
      simp only [run_bind, run_send, run_record] at h
      exact (ih h).mono fun c ⟨m, hm, he⟩ => ⟨m, List.mem_cons_of_mem _ hm, he⟩
    · simp only [run_bind, run_throw] at h
      cases h
      exact .refl _

/-- Every change `deleteRoles` makes deletes one of its roles. -/
theorem deleteRoles_evolves {L : List String} {st st' : CycleState} {r : Except SyncError Unit}
    (h : (deleteRoles L).run.run st = (r, st')) :
    Guild.Evolves (fun c => ∃ n ∈ L, c.mutation = .deleteRole n) st.guild st'.guild := by
  induction L generalizing st with
  | nil =>
    simp only [deleteRoles, run_pure] at h
    cases h
    exact .refl _
  | cons n L ih =>
    simp only [deleteRoles, run_bind, run_onGuild] at h
    rcases hd : st.guild.deleteRole n with e | g'
    · simp only [hd] at h
      cases h
      exact .refl _
    · simp only [hd, run_record] at h
      refine .cons (m := .deleteRole n) hd ⟨n, List.mem_cons_self, rfl⟩ ((ih h).mono fun c ⟨m, hm, he⟩ => ?_)
      exact ⟨m, List.mem_cons_of_mem _ hm, he⟩

/-- Running `editRole` moves the clock and then runs the session's edit. -/
theorem run_editRole (session : Session) (a : RoleAttributes) (st : CycleState) :
    ∃ clock, (editRole session a).run.run st = match session.editRole st.guild a with
      | .ok g' => (.ok (), { st with guild := g', clock })
      | .error e => (.error (.platformFatal e), { st with clock }) := by
  unfold editRole
  simp only [run_bind, run_get]
  -- a delayed edit first moves the clock; the guild sees the same edit either way
  split
  · rename_i d _
    refine ⟨⟨st.clock.nanos + (Duration.ofMillis (min d.timerMillis session.editTimeout.timerMillis)).nanos⟩, ?_⟩
    simp only [run_bind, run_set, run_onGuild]
  · exact ⟨st.clock, by simp only [run_onGuild]⟩

/-- Every change `editRoles` makes writes the attributes of the policy's role of one of its
names. -/
theorem editRoles_evolves {session : Session} {policy : List (String × Role)} {L : List String}
    {st st' : CycleState} {r : Except SyncError Unit}
    (h : (editRoles session policy L).run.run st = (r, st')) :
    Guild.Evolves (fun c => ∃ n ∈ L, ∃ role, Sorted.get? n policy = some role ∧
      c.mutation = .editRole role.name ∧ c.before.editRole role.attributes = .ok c.after)
      st.guild st'.guild := by
  induction L generalizing st with
  | nil =>
    simp only [editRoles, run_pure] at h
    cases h
    exact .refl _
  | cons n L ih =>
    simp only [editRoles] at h
    split at h
    · rename_i role hrole
      obtain ⟨clock, hrun⟩ := run_editRole session role.attributes st
      simp only [run_bind, hrun] at h
      rcases he : session.editRole st.guild role.attributes with e | g'
      · simp only [he] at h
        cases h
        exact .refl _
      · simp only [he, run_record] at h
        have he := Session.editRole_eq_ok he
        refine .cons (m := .editRole role.name) ⟨role.attributes, rfl, he⟩ ⟨n, List.mem_cons_self, role, hrole, rfl, he⟩
          ((ih h).mono fun c ⟨m, hm, hc⟩ => ?_)
        exact ⟨m, List.mem_cons_of_mem _ hm, hc⟩
    · exact (ih h).mono fun c ⟨m, hm, hc⟩ => ⟨m, List.mem_cons_of_mem _ hm, hc⟩

/-- Member updates never stop a cycle. -/
theorem updateMembers_ok {ups : List MemberUpdate} {st st' : CycleState} {r : Except SyncError Unit}
    (h : (updateMembers ups).run.run st = (r, st')) : r = .ok () := by
  induction ups generalizing st with
  | nil =>
    simp only [updateMembers, run_pure] at h
    cases h
    rfl
  | cons up ups ih =>
    simp only [updateMembers, run_bind, run_get] at h
    -- refused or not, the update is followed by the rest of the list
    split at h <;> simp only [run_bind, run_modify, run_record] at h <;> exact ih h

/-- Member updates never stop a cycle. Each change is the update of a listed member, in the
order listed; when each member is listed once, every change finds the guild as the loop started
apart from members and the log, and the seat it replaces as the loop started. -/
theorem updateMembers_trace {ups : List MemberUpdate} {st st' : CycleState}
    {r : Except SyncError Unit} (h : (updateMembers ups).run.run st = (r, st'))
    (hu : (ups.map MemberUpdate.userId).Nodup) :
    r = .ok () ∧ ∃ cs, Guild.Trace st.guild cs st'.guild ∧
      (cs.map Guild.Change.mutation).Sublist (ups.map fun u => .setMemberRoles u.userId u.roleIds) ∧
      ∀ c ∈ cs, c.before = { st.guild with members := c.before.members, mutations := c.before.mutations } ∧
        ∀ u ids, c.mutation = .setMemberRoles u ids →
          Sorted.get? u c.before.members = Sorted.get? u st.guild.members := by
  induction ups generalizing st with
  | nil =>
    simp only [updateMembers, run_pure] at h
    cases h
    exact ⟨rfl, [], .done _, by simp⟩
  | cons up ups ih =>
    rw [List.map_cons, List.nodup_cons] at hu
    simp only [updateMembers, run_bind, run_get] at h
    rcases hs : st.guild.setMemberRoles up.userId up.roleIds with e | g'
    · -- a refused update is noted and changes nothing
      simp only [hs] at h
      obtain ⟨hr, cs, ht, hsub, hcs⟩ := ih h hu.2
      exact ⟨hr, cs, ht, hsub.cons _, hcs⟩
    · simp only [hs, run_bind, run_modify, run_record] at h
      obtain ⟨hr, cs, ht, hsub, hcs⟩ := ih h hu.2
      obtain ⟨-, -, seat, -, rfl⟩ := Guild.setMemberRoles_eq_ok hs
      refine ⟨hr, _ :: cs, .accept (c := ⟨st.guild, .setMemberRoles up.userId up.roleIds, _⟩) hs ht,
        hsub.cons_cons _, fun c hc => ?_⟩
      rcases List.mem_cons.1 hc with rfl | hc
      · exact ⟨rfl, fun u ids _ => rfl⟩
      obtain ⟨hframe, hseat⟩ := hcs c hc
      refine ⟨hframe, fun u ids hm => ?_⟩
      -- a later change updates a later member, whose seat the first update left alone
      have hu' : u ≠ up.userId := by
        have hmem := hsub.subset (List.mem_map_of_mem (f := Guild.Change.mutation) hc)
        obtain ⟨u', hu', he⟩ := List.mem_map.1 hmem
        rw [hm] at he
        cases he
        exact fun h => hu.1 (h ▸ List.mem_map_of_mem hu')
      rw [hseat u ids hm]
      exact Sorted.get?_put_ne hu'

/-! ### The phases of a cycle -/

/-- A cycle's session asks for member pages of `1..1000` members. -/
theorem session_pageSize (c : SyncConfig) :
    0 < c.session.pageSize ∧ c.session.pageSize ≤ Guild.maxPageSize := by
  simp only [SyncConfig.session, Session.withPageSize, Guild.maxPageSize]
  omega

section Phases

variable {c : SyncConfig} {store : Store} {ns : Namespace}

theorem syncEnabledRoles_eq : syncEnabledRoles c store ns = .ok (c.synced store ns) := rfl

/-- The roles a cycle synchronises never have an ignored display name. -/
theorem name_not_ignored {r : Role} (hr : r ∈ c.synced store ns) : r.name ∉ c.ignoredRoleNames := by
  have := (List.mem_filter.1 hr).2
  simp only [Bool.and_eq_true, Bool.not_eq_true', Sorted.contains_eq_false] at this
  exact this.2

/-- A change of the role phase: it creates, deletes or edits a role whose name is not ignored. -/
def RoleChange (c : SyncConfig) (ch : Guild.Change) : Prop :=
  ∃ n, n ∉ c.ignoredRoleNames ∧
    (ch.mutation = .createRole n ∨ ch.mutation = .deleteRole n ∨ ch.mutation = .editRole n)

/-- A name the role phase creates, deletes or edits is never ignored. -/
theorem syncRoles_evolves {st st' : CycleState} {r : Except SyncError Unit}
    (h : (syncRoles c store ns).run.run st = (r, st')) :
    Guild.Evolves (RoleChange c) st.guild st'.guild := by
  simp only [syncRoles, run_bind, run_now, run_send, run_get, syncEnabledRoles_eq, run_lift_ok] at h
  rcases hm : Session.roles st.guild with e | M
  · simp only [hm, run_fatal_error] at h
    cases h
    exact .refl _
  simp only [hm, run_fatal_ok] at h
  generalize hroles : c.synced store ns = roles at h
  generalize hplan : RolePlan.ofNames ((Sorted.mapOfList (roles.map fun r => (r.name, r))).map Prod.fst)
    (M.namesExcluding c.ignoredRoleNames) = plan at h
  -- creations come from the policy's names, deletions from the guild's unignored names, and
  -- edits write a policy role under its own name
  have hcreate {st₀ st₁ : CycleState} {r₁ : Except SyncError Unit}
      (h₁ : (createRoles plan.create).run.run st₀ = (r₁, st₁)) :
      Guild.Evolves (RoleChange c) st₀.guild st₁.guild := by
    refine (createRoles_evolves h₁).mono fun ch ⟨n, hn, he⟩ => ?_
    rw [← hplan] at hn
    have hn' := Sorted.mem_keys_mapOfList.1 (Sorted.mem_diff.1 hn).1
    rw [List.map_map] at hn'
    obtain ⟨r, hr, rfl⟩ := List.mem_map.1 hn'
    exact ⟨_, name_not_ignored (hroles ▸ hr), .inl he⟩
  have hdelete {st₀ st₁ : CycleState} {r₁ : Except SyncError Unit}
      (h₁ : (deleteRoles plan.delete).run.run st₀ = (r₁, st₁)) :
      Guild.Evolves (RoleChange c) st₀.guild st₁.guild := by
    refine (deleteRoles_evolves h₁).mono fun ch ⟨n, hn, he⟩ => ?_
    rw [← hplan] at hn
    have := (List.mem_filter.1 (Sorted.mem_diff.1 hn).1).2
    exact ⟨n, by simpa using this, .inr (.inl he)⟩
  have hedit {st₀ st₁ : CycleState} {r₁ : Except SyncError Unit}
      (h₁ : (editRoles c.session (Sorted.mapOfList (roles.map fun r => (r.name, r))) plan.update).run.run
        st₀ = (r₁, st₁)) :
      Guild.Evolves (RoleChange c) st₀.guild st₁.guild := by
    refine (editRoles_evolves h₁).mono fun ch ⟨_, _, role, hrole, he, _⟩ => ?_
    obtain ⟨r', hr', hrr⟩ := List.mem_map.1 (Sorted.mem_of_get?_mapOfList hrole)
    cases hrr
    exact ⟨role.name, name_not_ignored (hroles ▸ hr'), .inr (.inr he)⟩
  -- the phase stops after the first loop that fails
  split at h
  · rename_i h₁
    split at h
    · rename_i h₂
      split at h
      · rename_i h₃
        simp only [run_since] at h
        cases h
        exact (((hcreate h₁).trans (hdelete h₂)).trans (hedit h₃) :)
      · rename_i h₃
        cases h
        exact (((hcreate h₁).trans (hdelete h₂)).trans (hedit h₃) :)
    · rename_i h₂
      cases h
      exact ((hcreate h₁).trans (hdelete h₂) :)
  · rename_i h₁
    cases h
    exact (hcreate h₁ :)

end Phases

section Runs

variable {σ : Type} [PolicyView σ] {c : SyncConfig} {store : σ} {ns : Namespace}

private theorem id_pure {α : Type} (x : α) : (pure x : Id α) = x := rfl

private theorem id_bind {α β : Type} (x : α) (f : α → Id β) : (x >>= f : Id β) = f x := rfl

/-- A whole cycle runs the role phase, and, if it did not stop, the membership phase; a stopped
phase ends the cycle with its error. -/
theorem run_eq (st : CycleState) : (Cycle.run c store ns).run st =
    match (syncRoles c store ns).run.run st with
    | (.error e, st₁) => (.error ⟨.roleDefinitions, e, st₁.report⟩,
        { st₁ with sent := st₁.sent ++ [Progress.fatal (Phase.roleDefinitions.text ++ ": " ++ e.message)] })
    | (.ok (), st₁) =>
      match (syncMembers c store ns).run.run st₁ with
      | (.error e, st₂) => (.error ⟨.membership, e, st₂.report⟩,
          { st₂ with sent := st₂.sent ++ [Progress.fatal (Phase.membership.text ++ ": " ++ e.message)] })
      | (.ok (), st₂) => (.ok st₂.report,
          { st₂ with sent := st₂.sent ++ [Progress.cycleCompleted ⟨st₂.clock.nanos - st.clock.nanos⟩] }) := by
  rcases h₁ : (syncRoles c store ns).run.run st with ⟨_ | ⟨⟩, st₁⟩
  · simp [Cycle.run, runPhase, h₁]
    rfl
  · rcases h₂ : (syncMembers c store ns).run.run st₁ with ⟨_ | ⟨⟩, st₂⟩
    · simp [Cycle.run, runPhase, id_bind, id_pure, h₁, h₂]
      rfl
    · simp [Cycle.run, runPhase, id_bind, id_pure, h₁, h₂]
      rfl

/-- The guild after a cycle: after the role phase, and after the membership phase when the role
phase did not stop. -/
theorem runCycle_guild (g : Guild) : (runCycle c store ns g).guild =
    match (syncRoles c store ns).run.run { guild := g } with
    | (.error _, st₁) => st₁.guild
    | (.ok (), st₁) => ((syncMembers c store ns).run.run st₁).2.guild := by
  unfold runCycle
  rw [run_eq]
  generalize (syncRoles c store ns).run.run { guild := g } = o₁
  rcases o₁ with ⟨_ | u, st₁⟩
  · rfl
  · cases u
    dsimp only
    generalize (syncMembers c store ns).run.run st₁ = o₂
    rcases o₂ with ⟨_ | u, st₂⟩
    · rfl
    · cases u
      rfl

end Runs

end Cycle

end GuildRoles

import GuildRoles.Proofs.HealthyRun

/-!
# The membership phase on a healthy guild

A member is settled when the managed roles they hold are exactly the ones the policy wants them
to hold (`Cycle.Settled`). On a healthy guild in which every managed name has a role, as the
role phase leaves it, the role map has an id for every name, so the plan holds no member back
and every update it makes is accepted. The membership phase then ends without error, updates
exactly the members that are neither settled nor on the no-sync list, and leaves each member
not on that list holding the wanted managed roles next to the unmanaged roles they held
(`syncMembers_healthy`).
-/

namespace GuildRoles

namespace Guild

variable {g g' : Guild} {u : UserId} {n : String}

/-- What a member holds depends only on their seat and on the roles. -/
theorem holds_of_seat (hr : g'.roles = g.roles) (hs : Sorted.get? u g'.members = Sorted.get? u g.members) :
    g'.Holds u n ↔ g.Holds u n := by
  unfold Holds memberRoles?
  rw [hs, view_congr hr]

theorem holds_iff_mem_view {seat : Seat} (hs : Sorted.get? u g.members = some seat) :
    g.Holds u n ↔ n ∈ (g.view u seat).roleNames := by
  simp [Holds, memberRoles?, hs]

end Guild

namespace MemberPlan

variable {s : MembershipSnapshot}

/-- The plan holds a member back only when one of their unmanaged names has no id. -/
theorem ofSnapshot_held (h : ∀ m ∈ s.members, mappable s m = true) : (ofSnapshot s).held = [] := by
  suffices ∀ (ms : List Member) (plan : MemberPlan), (∀ m ∈ ms, mappable s m = true) →
      (ms.foldl (addMember s) plan).held = plan.held from this s.members _ h
  intro ms
  induction ms with
  | nil => exact fun _ _ => rfl
  | cons m ms ih =>
    intro plan hms
    rw [List.foldl_cons, ih _ fun m' hm' => hms m' (List.mem_cons_of_mem _ hm'), addMember_eq]
    split_ifs with hc hn hmiss
    · rfl
    · rfl
    · simp [hms m List.mem_cons_self] at hmiss
    · rfl

end MemberPlan

namespace Cycle

/-- Member `u` holds exactly the managed roles the policy wants them to hold. -/
def Settled (c : SyncConfig) (store : Store) (ns : Namespace) (g : Guild) (u : UserId) : Prop :=
  ∀ n, g.Holds u n ∧ c.Manages store ns n ↔ c.Wants store ns u n

/-- A settled member holds the wanted roles and the unmanaged roles they hold. -/
theorem Settled.holds_iff {c : SyncConfig} {store : Store} {ns : Namespace} {g : Guild} {u : UserId}
    (h : Settled c store ns g u) (n : String) :
    g.Holds u n ↔ c.Wants store ns u n ∨ (g.Holds u n ∧ ¬ c.Manages store ns n) := by
  by_cases hm : c.Manages store ns n
  · rw [← h n]
    tauto
  · have hw : ¬ c.Wants store ns u n := fun hw => hm hw.manages
    tauto

section Loop

variable {st st' : CycleState} {r : Except SyncError Unit} {ups : List MemberUpdate}

/-- On a healthy guild `updateMembers` makes every update of its list, each of a member of the
guild to roles of the guild, and changes no other seat. -/
theorem updateMembers_healthy (h : (updateMembers ups).run.run st = (r, st')) {t : Duration}
    (hh : st.guild.Healthy t) (hu : (ups.map MemberUpdate.userId).Nodup)
    (hok : ∀ up ∈ ups, up.userId ∈ st.guild.members.map Prod.fst ∧
      ∀ id ∈ up.roleIds, id ∈ st.guild.roles.map Prod.fst) :
    r = .ok () ∧ st'.guild.Healthy t ∧
      st'.report = { st.report with updatedUsers := st.report.updatedUsers ++ ups.map MemberUpdate.userId } ∧
      st'.guild.roles = st.guild.roles ∧ st'.guild.members.map Prod.fst = st.guild.members.map Prod.fst ∧
      st'.guild.mutations = st.guild.mutations ++ ups.map (fun up => .setMemberRoles up.userId up.roleIds) ∧
      (∀ up ∈ ups, ∀ n, st'.guild.Holds up.userId n ↔ ∃ id ∈ up.roleIds, st.guild.IdNamed id n) ∧
      ∀ v ∉ ups.map MemberUpdate.userId, Sorted.get? v st'.guild.members = Sorted.get? v st.guild.members := by
  induction ups generalizing st with
  | nil =>
    simp only [updateMembers, run_pure] at h
    cases h
    refine ⟨rfl, hh, ?_⟩
    simp
  | cons up ups ih =>
    rw [List.map_cons, List.nodup_cons] at hu
    obtain ⟨hmem, hids⟩ := hok up List.mem_cons_self
    obtain ⟨g₁, hs⟩ := Guild.setMemberRoles_isOk (by simp [hh.faults_eq]) hids
      (Option.isSome_iff_ne_none.2 (mt Sorted.get?_eq_none_iff.1 (not_not.2 hmem)))
    simp only [updateMembers, run_bind, run_get, hs, run_modify, run_record] at h
    obtain ⟨-, -, seat, -, hg₁⟩ := Guild.setMemberRoles_eq_ok hs
    have hroles₁ : g₁.roles = st.guild.roles := by rw [hg₁]
    have hkeys₁ : g₁.members.map Prod.fst = st.guild.members.map Prod.fst := by
      rw [hg₁]
      exact Sorted.keys_put_of_mem hh.wellFormed.members_keyed hmem
    obtain ⟨hr, hh', hrep, hroles, hkeys, hmut, hupd, hframe⟩ := ih h (hh.setMemberRoles hs) hu.2
      fun up' hup' => by
        obtain ⟨hm', hids'⟩ := hok up' (List.mem_cons_of_mem _ hup')
        exact ⟨hkeys₁ ▸ hm', hroles₁ ▸ hids'⟩
    refine ⟨hr, hh', by rw [hrep]; simp, hroles.trans hroles₁, hkeys.trans hkeys₁,
      by rw [hmut, hg₁]; simp, fun up' hup' n => ?_, fun v hv => ?_⟩
    · rcases List.mem_cons.1 hup' with rfl | hup'
      · -- the later updates are of other members, so this one's seat stays
        rw [Guild.holds_of_seat hroles (hframe _ hu.1), Guild.holds_setMemberRoles hh.wellFormed hs, if_pos rfl]
      · rw [hupd up' hup' n]
        simp only [Guild.IdNamed, hroles₁]
    · rw [List.map_cons, List.mem_cons, not_or] at hv
      rw [hframe v hv.2, hg₁, Sorted.get?_put_ne hv.1]

end Loop

section Snapshot

variable {c : SyncConfig} {store : Store} {ns : Namespace} {g : Guild} {M : RoleMap}
  {policy : List (UserId × List String)} {u : UserId} {seat : Seat} {n : String}

/-- A member is converged exactly when they are settled. -/
theorem converged_iff_settled (hp : policyOf store ns (c.synced store ns) [] = .ok policy)
    (hseat : Sorted.get? u g.members = some seat) :
    MemberPlan.converged (memberSnapshot c store ns g M policy) (g.view u seat) = true ↔
      Settled c store ns g u := by
  obtain ⟨hinc, hwants⟩ := mem_policyOf hp
  -- neither side lists a name twice: the wanted names and the held names are sets
  have hd : (MemberPlan.desired (memberSnapshot c store ns g M policy) (g.view u seat)).Nodup := by
    change ((Sorted.get? u policy).getD []).Nodup
    cases hv : Sorted.get? u policy with
    | none => exact List.nodup_nil
    | some v => exact (hinc u v hv).nodup
  have ho : (MemberPlan.observed (memberSnapshot c store ns g M policy) (g.view u seat)).Nodup :=
    (Sorted.increasing_ofList _).nodup.filter _
  rw [MemberPlan.converged_iff hd ho]
  refine forall_congr' fun n => ?_
  rw [MemberPlan.mem_observed, mem_managed_memberSnapshot, ← Guild.holds_iff_mem_view hseat]
  exact iff_congr Iff.rfl (hwants u n)

variable (hh : g.Healthy c.editRoleTimeout) (hM : Session.roles g = .ok M)
  (hp : policyOf store ns (c.synced store ns) [] = .ok policy)
include hh hM

/-- On a healthy guild the role map has every role under its name. -/
theorem isSome_get?_roles_healthy : (Sorted.get? n M).isSome ↔ n ∈ g.names := by
  rw [Session.roles_get? hM (hh.wellFormed.uniqueNames_iff.1 hh.uniqueNames) hh.stale_eq,
    Guild.roleId?_isSome_iff]

/-- On a healthy guild the plan holds no member back. -/
theorem mappable_healthy (hseat : Sorted.get? u g.members = some seat) :
    MemberPlan.mappable (memberSnapshot c store ns g M policy) (g.view u seat) = true := by
  rw [MemberPlan.mappable_iff]
  intro n hn
  rw [MemberPlan.mem_unmanaged, ← Guild.holds_iff_mem_view hseat] at hn
  exact (isSome_get?_roles_healthy hh hM).2 (hn.1.mem_names hh.wellFormed)

include hp

/-- On a healthy guild the plan updates a member exactly when they are neither settled nor on
the no-sync list. -/
theorem updateOf_isSome_healthy (hseat : Sorted.get? u g.members = some seat) :
    (MemberPlan.updateOf (memberSnapshot c store ns g M policy) (g.view u seat)).isSome ↔
      u ∉ c.noSyncUsers ∧ ¬ Settled c store ns g u := by
  rw [← converged_iff_settled (M := M) hp hseat, Option.isSome_iff_exists]
  simp only [MemberPlan.updateOf_eq_some, mappable_healthy hh hM hseat, true_and, exists_eq_right_right,
    Bool.not_eq_true]
  exact and_comm

/-- On a healthy guild in which every managed name has a role, an update gives a member, by
name, the wanted roles and the unmanaged roles they hold. -/
theorem idNamed_update_healthy (hP : ∀ n, c.Manages store ns n → n ∈ g.names)
    (hseat : Sorted.get? u g.members = some seat) {ids : List RoleId}
    (hup : MemberPlan.updateOf (memberSnapshot c store ns g M policy) (g.view u seat) = some ⟨u, ids⟩) :
    (∃ id ∈ ids, g.IdNamed id n) ↔ c.Wants store ns u n ∨ (g.Holds u n ∧ ¬ c.Manages store ns n) := by
  rw [Guild.holds_iff hh.wellFormed]
  constructor
  · rintro ⟨id, hid, hnamed⟩
    obtain ⟨n', hget, hn'⟩ := (mem_update hh.wellFormed hp hup).1 hid
    -- the name the map read the id for is the id's own name
    obtain rfl := hh.wellFormed.idNamed_unique (idNamed_of_get? hM hget).1 hnamed
    exact hn'.symm.imp_right fun h => ⟨⟨seat, hseat, h.1⟩, h.2⟩
  · rintro (hw | ⟨⟨s, hs, hheld⟩, hman⟩)
    · obtain ⟨id, hid⟩ := Option.isSome_iff_exists.1 ((isSome_get?_roles_healthy hh hM).2 (hP n hw.manages))
      exact ⟨id, (mem_update hh.wellFormed hp hup).2 ⟨n, hid, .inr hw⟩, (idNamed_of_get? hM hid).1⟩
    · rw [hseat] at hs
      cases hs
      exact (update_keeps_unmanaged hh.wellFormed hM hp hup hman).2 hheld

/-- On a healthy guild the plan updates exactly the members that are neither settled nor on the
no-sync list. -/
theorem mem_updates_healthy :
    u ∈ (MemberPlan.ofSnapshot (memberSnapshot c store ns g M policy)).updates.map MemberUpdate.userId ↔
      u ∈ g.members.map Prod.fst ∧ u ∉ c.noSyncUsers ∧ ¬ Settled c store ns g u := by
  constructor
  · intro hu
    obtain ⟨up, hup, rfl⟩ := List.mem_map.1 hu
    obtain ⟨s, hs, hupdate⟩ := exists_seat_of_update hh.wellFormed hup
    refine ⟨List.mem_map_of_mem (Sorted.mem_of_get? hs), (updateOf_isSome_healthy hh hM hp hs).1 ?_⟩
    rw [hupdate]
    rfl
  · rintro ⟨hkey, hn⟩
    obtain ⟨s, hs⟩ := Option.ne_none_iff_exists'.1 (mt Sorted.get?_eq_none_iff.1 (not_not.2 hkey))
    obtain ⟨up, hup⟩ := Option.isSome_iff_exists.1 ((updateOf_isSome_healthy hh hM hp hs).2 hn)
    obtain ⟨-, -, -, rfl⟩ := MemberPlan.updateOf_eq_some.1 hup
    have hm : g.view u s ∈ (memberSnapshot c store ns g M policy).members :=
      List.mem_map.2 ⟨(u, s), Sorted.mem_of_get? hs, rfl⟩
    rw [MemberPlan.ofSnapshot_updates]
    exact List.mem_map_of_mem (List.mem_filterMap.2 ⟨_, hm, hup⟩)

/-- Each update the plan makes on a healthy guild in which every managed name has a role is of a
member, to roles of the guild: by name, the wanted ones and the unmanaged ones the member holds. -/
theorem updates_healthy (hP : ∀ n, c.Manages store ns n → n ∈ g.names) {up : MemberUpdate}
    (hup : up ∈ (MemberPlan.ofSnapshot (memberSnapshot c store ns g M policy)).updates) :
    up.userId ∈ g.members.map Prod.fst ∧ (∀ id ∈ up.roleIds, id ∈ g.roles.map Prod.fst) ∧
      ∀ n, (∃ id ∈ up.roleIds, g.IdNamed id n) ↔
        c.Wants store ns up.userId n ∨ (g.Holds up.userId n ∧ ¬ c.Manages store ns n) := by
  obtain ⟨s, hs, hupdate⟩ := exists_seat_of_update hh.wellFormed hup
  refine ⟨List.mem_map_of_mem (Sorted.mem_of_get? hs), fun id hid => ?_,
    fun n => idNamed_update_healthy hh hM hp hP hs hupdate⟩
  obtain ⟨n, hget, -⟩ := (mem_update hh.wellFormed hp hupdate).1 hid
  obtain ⟨⟨a, ha, -⟩, -⟩ := idNamed_of_get? hM hget
  exact List.mem_map_of_mem ha

end Snapshot

/-- What the membership phase leaves of a healthy guild `g` in which every managed name has a
role: the same roles and members, each member not on the no-sync list holding the wanted managed
roles next to the unmanaged roles they held, and the members on that list as they were. -/
structure MembersSynced (c : SyncConfig) (store : Store) (ns : Namespace) (g g' : Guild) : Prop where
  healthy : g'.Healthy c.editRoleTimeout
  roles : g'.roles = g.roles
  keys : g'.members.map Prod.fst = g.members.map Prod.fst
  synced : ∀ u ∈ g.members.map Prod.fst, u ∉ c.noSyncUsers → ∀ n,
    (g'.Holds u n ↔ c.Wants store ns u n ∨ (g.Holds u n ∧ ¬ c.Manages store ns n))
  skipped : ∀ u ∈ c.noSyncUsers, ∀ n, g'.Holds u n ↔ g.Holds u n

theorem MembersSynced.roleNamed {c : SyncConfig} {store : Store} {ns : Namespace} {g g' : Guild}
    (h : MembersSynced c store ns g g') (n : String) : g'.roleNamed n = g.roleNamed n := by
  rw [Guild.roleNamed, Guild.roleNamed, h.roles]

section MemberPhase

variable {c : SyncConfig} {store : Store} {ns : Namespace}

/-- On a healthy guild in which every managed name has a role, and with a well-formed store, the
membership phase ends without error, leaves the guild as `MembersSynced` says, and updates
exactly the members that are neither settled nor on the no-sync list: it logs and reports their
updates, and leaves every other seat as it was. -/
theorem syncMembers_healthy {st st' : CycleState} {r : Except SyncError Unit}
    (h : (syncMembers c store ns).run.run st = (r, st')) (hh : st.guild.Healthy c.editRoleTimeout)
    (hs : store.WellFormed) (hP : ∀ n, c.Manages store ns n → n ∈ st.guild.names) :
    r = .ok () ∧ MembersSynced c store ns st.guild st'.guild ∧
      ∃ ups : List MemberUpdate,
        (∀ u, u ∈ ups.map MemberUpdate.userId ↔
          u ∈ st.guild.members.map Prod.fst ∧ u ∉ c.noSyncUsers ∧ ¬ Settled c store ns st.guild u) ∧
        (∀ u ∉ ups.map MemberUpdate.userId, Sorted.get? u st'.guild.members = Sorted.get? u st.guild.members) ∧
        st'.report = { st.report with
          updatedUsers := st.report.updatedUsers ++ ups.map MemberUpdate.userId,
          skippedUsers := st'.report.skippedUsers } ∧
        st'.guild.mutations = st.guild.mutations ++ ups.map fun up => .setMemberRoles up.userId up.roleIds := by
  simp only [syncMembers, run_bind, run_now, run_send, run_get, run_set, run_since, syncEnabledRoles_eq,
    run_lift_ok] at h
  rw [Session.members_eq_ok c.session hh.wellFormed (by simp [hh.faults_eq]) (session_pageSize c).1
    (session_pageSize c).2] at h
  simp only [run_fatal_ok] at h
  -- the fetch only counts page requests: the plan is made on the guild as it was
  generalize hk : st.guild.members.length / c.session.pageSize + 1 = k at h
  have hh₀ : ({ st.guild with memberPageRequests := st.guild.memberPageRequests + k } : Guild).Healthy
      c.editRoleTimeout :=
    ⟨⟨hh.wellFormed.1, hh.wellFormed.2, hh.wellFormed.3⟩, hh.uniqueNames, hh.stale_eq, hh.faults_eq, hh.delay_ok⟩
  obtain ⟨M, hM⟩ : ∃ M, Session.roles st.guild = .ok M := ⟨_, Session.roles_eq (by simp [hh.faults_eq])⟩
  have hM₀ : Session.roles { st.guild with memberPageRequests := st.guild.memberPageRequests + k } = .ok M := hM
  obtain ⟨policy, hp⟩ : ∃ policy, policyOf store ns (c.synced store ns) [] = .ok policy :=
    policyOf_isOk hs (fun r hr => (SyncConfig.mem_synced.1 hr).1) []
  simp only [hM₀, run_fatal_ok, hp, run_lift_ok, run_record] at h
  split at h
  swap
  · rename_i hu
    cases updateMembers_ok hu
  rename_i st₂ hu
  have hok := fun up (hup : up ∈ _) => updates_healthy hh hM hp hP hup
  obtain ⟨-, hh₂, hrep₂, hroles₂, hkeys₂, hmut₂, hupd₂, hframe₂⟩ :=
    updateMembers_healthy hu hh₀ (updates_nodup hh.wellFormed) fun up hup => ⟨(hok up hup).1, (hok up hup).2.1⟩
  cases h
  -- no member is held back, so the phase records no error
  have hheld : (MemberPlan.ofSnapshot (memberSnapshot c store ns st.guild M policy)).held = [] :=
    MemberPlan.ofSnapshot_held fun m hm => by
      obtain ⟨⟨u, seat⟩, he, rfl⟩ := List.mem_map.1 hm
      exact mappable_healthy hh hM ((Sorted.get?_eq_some_iff hh.wellFormed.members_keyed).2 he)
  unfold memberSnapshot at hheld
  -- a member the phase does not update keeps their seat
  have hkept : ∀ u ∉ (MemberPlan.ofSnapshot (memberSnapshot c store ns st.guild M policy)).updates.map
      MemberUpdate.userId, ∀ n, st₂.guild.Holds u n ↔ st.guild.Holds u n :=
    fun u hu n => Guild.holds_of_seat hroles₂ (hframe₂ u hu)
  refine ⟨rfl, ⟨hh₂, hroles₂, hkeys₂, fun u hu hn n => ?_, fun u hn n => ?_⟩,
    _, fun u => mem_updates_healthy hh hM hp, hframe₂, by rw [hrep₂]; simp [hheld, memberSnapshot], hmut₂⟩
  · by_cases hup : u ∈ (MemberPlan.ofSnapshot (memberSnapshot c store ns st.guild M policy)).updates.map
        MemberUpdate.userId
    · obtain ⟨up, hup', rfl⟩ := List.mem_map.1 hup
      exact (hupd₂ up hup' n).trans ((hok up hup').2.2 n)
    · have hset : Settled c store ns st.guild u := by
        by_contra hns
        exact hup ((mem_updates_healthy hh hM hp).2 ⟨hu, hn, hns⟩)
      exact (hkept u hup n).trans (hset.holds_iff n)
  · exact hkept u (fun hup => ((mem_updates_healthy hh hM hp).1 hup).2.1 hn) n

end MemberPhase

end Cycle

end GuildRoles

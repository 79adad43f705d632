import GuildRoles.Proofs.MemberSync

/-!
# What a cycle does to a healthy guild

A cycle runs the role phase and then the membership phase, and returns the report when neither
stops (`runCycle_of_phases`). On a healthy guild, with a well-formed store, neither stops: the
role phase leaves the guild as `RolesSynced` says, in particular with a role for every managed
name, which is what the membership phase needs to leave the guild as `MembersSynced` says
(`runCycle_healthy`).

Read through role names and member holdings, this is the postcondition of a cycle
(`runCycle_reconciles`): the guild's roles are the managed names and the ignored names it had;
a managed name it had keeps its id and carries the attributes of the policy's role of that name,
the one with the greatest short name; a managed name it lacked is a new role with the attributes
of a new role; the members stay, and each member not on the no-sync list holds the roles the
policy wants them to hold and the ignored roles they held.
-/

namespace GuildRoles

namespace Cycle

variable {c : SyncConfig} {store : Store} {ns : Namespace} {g g' : Guild} {n : String}

/-- A cycle whose phases both end without error returns the report and the guild the membership
phase leaves. -/
theorem runCycle_of_phases {st₁ st₂ : CycleState}
    (h₁ : (syncRoles c store ns).run.run { guild := g } = (.ok (), st₁))
    (h₂ : (syncMembers c store ns).run.run st₁ = (.ok (), st₂)) :
    (runCycle c store ns g).result = .ok st₂.report ∧ (runCycle c store ns g).guild = st₂.guild := by
  simp [runCycle, run_eq, h₁, h₂]

namespace RolesSynced

variable (h : RolesSynced c store ns g g')
include h

/-- After the role phase the guild's names are the managed names and the ignored names it had. -/
theorem mem_names : n ∈ g'.names ↔ c.Manages store ns n ∨ (n ∈ g.names ∧ n ∈ c.ignoredRoleNames) := by
  rw [← Guild.roleNamed_isSome_iff]
  by_cases hm : c.Manages store ns n
  · simp only [hm, true_or, iff_true]
    by_cases hn : n ∈ g.names
    · obtain ⟨role, hrole⟩ := SyncConfig.get?_policyMap_isSome hm
      rw [h.kept n role hrole hn, Option.isSome_map, Guild.roleId?_isSome_iff]
      exact hn
    · obtain ⟨id, hid, -⟩ := h.created n hm hn
      rw [hid]
      rfl
  · rw [h.unmanaged n hm]
    by_cases hi : n ∈ c.ignoredRoleNames
    · simp [hi, hm, Guild.roleNamed_isSome_iff]
    · simp [hi, hm]

end RolesSynced

/-- On a healthy guild, with a well-formed store, a cycle returns its report. The role phase
leaves a guild `g₁` as `RolesSynced` says, with the role plan of the role map `M` in the report
and the log; the membership phase then leaves the guild as `MembersSynced` says, updating exactly
the members of `g₁` that are neither settled nor on the no-sync list. -/
theorem runCycle_healthy (ns : Namespace) (hh : g.Healthy c.editRoleTimeout) (hs : store.WellFormed) :
    ∃ M g₁ rep, ∃ ups : List MemberUpdate, Session.roles g = .ok M ∧ (runCycle c store ns g).result = .ok rep ∧
      RolesSynced c store ns g g₁ ∧ MembersSynced c store ns g₁ (runCycle c store ns g).guild ∧
      (∀ u, u ∈ ups.map MemberUpdate.userId ↔
        u ∈ g₁.members.map Prod.fst ∧ u ∉ c.noSyncUsers ∧ ¬ Settled c store ns g₁ u) ∧
      (∀ u ∉ ups.map MemberUpdate.userId,
        Sorted.get? u (runCycle c store ns g).guild.members = Sorted.get? u g₁.members) ∧
      rep = { addedRoles := (rolePlan c store ns M).create,
              removedRoles := (rolePlan c store ns M).delete,
              updatedRoles := (rolePlan c store ns M).update,
              updatedUsers := ups.map MemberUpdate.userId,
              skippedUsers := rep.skippedUsers } ∧
      (runCycle c store ns g).guild.mutations = g.mutations ++ (rolePlan c store ns M).create.map .createRole ++
        (rolePlan c store ns M).delete.map .deleteRole ++ (rolePlan c store ns M).update.map .editRole ++
        ups.map fun up => .setMemberRoles up.userId up.roleIds := by
  rcases h₁ : (syncRoles c store ns).run.run { guild := g } with ⟨r₁, st₁⟩
  obtain ⟨M, hM, rfl, hsync₁, hrep₁, hmut₁⟩ := syncRoles_healthy h₁ hh
  rcases h₂ : (syncMembers c store ns).run.run st₁ with ⟨r₂, st₂⟩
  -- the role phase gave every managed name a role, which the membership phase needs
  obtain ⟨rfl, hsync₂, ups, hups, hframe, hrep₂, hmut₂⟩ :=
    syncMembers_healthy h₂ hsync₁.healthy hs fun n hn => hsync₁.mem_names.2 (.inl hn)
  obtain ⟨hres, hguild⟩ := runCycle_of_phases h₁ h₂
  refine ⟨M, st₁.guild, st₂.report, ups, hM, hres, hsync₁, hguild ▸ hsync₂, hups, hguild ▸ hframe, ?_, ?_⟩
  · rw [hrep₂, hrep₁]
    simp
  · rw [hguild, hmut₂, hmut₁]

/-- On a guild whose roles have distinct names, whose role listing hides nothing, that is told to
refuse nothing and whose edits end within the timeout, and with a store reached through its
administrative operations, a cycle returns its report and leaves the guild reconciled with the
policy: its role names are the managed names and the ignored names it had; a managed name it had
keeps its id and carries the attributes of the synchronised role of that name with the greatest
short name; a managed name it lacked is a role under a fresh id with the attributes of a new
role; the members stay, each member not on the no-sync list holds the roles the policy wants
them to hold and the ignored roles they held, and a member on that list keeps the roles they
held that are still there. -/
theorem runCycle_reconciles (hst : store.Reachable) (hg : g.WellFormed) (hu : g.names.Nodup)
    (hstale : g.stale = []) (hf : g.faults = {})
    (hd : ∀ d, g.editDelay = some d → d.endsWithin c.editRoleTimeout = true) :
    ∃ rep, (runCycle c store ns g).result = .ok rep ∧
      (∀ n, n ∈ (runCycle c store ns g).guild.roleNames ↔
        c.Manages store ns n ∨ (n ∈ g.roleNames ∧ n ∈ c.ignoredRoleNames)) ∧
      (∀ n ∈ g.roleNames, c.Manages store ns n → ∃ r, c.Syncs store ns r ∧ r.name = n ∧
        (∀ r', c.Syncs store ns r' → r'.name = n → r' ≠ r → r'.shortName < r.shortName) ∧
        (runCycle c store ns g).guild.roleId? n = g.roleId? n ∧
        (runCycle c store ns g).guild.roleAttributes? n = some r.attributes) ∧
      (∀ n ∉ g.roleNames, c.Manages store ns n → ∃ id, (runCycle c store ns g).guild.roleId? n = some id ∧
        g.hasRole id = false ∧ (runCycle c store ns g).guild.roleAttributes? n = some (.named n)) ∧
      (runCycle c store ns g).guild.members.map Prod.fst = g.members.map Prod.fst ∧
      (∀ u ∈ g.members.map Prod.fst, u ∉ c.noSyncUsers → ∀ n,
        ((runCycle c store ns g).guild.Holds u n ↔
          c.Wants store ns u n ∨ (g.Holds u n ∧ n ∈ c.ignoredRoleNames))) ∧
      ∀ u ∈ c.noSyncUsers, ∀ n, ((runCycle c store ns g).guild.Holds u n ↔
        g.Holds u n ∧ (c.Manages store ns n ∨ n ∈ c.ignoredRoleNames)) := by
  have hh : g.Healthy c.editRoleTimeout := ⟨hg, hg.uniqueNames_iff.2 hu, hstale, hf, hd⟩
  obtain ⟨M, g₁, rep, ups, -, hres, hR, hMS, -, -, -, -⟩ := runCycle_healthy ns hh hst.wellFormed
  refine ⟨rep, hres, fun n => ?_, fun n hn hm => ?_, fun n hn hm => ?_, hMS.keys.trans hR.keys,
    fun u hu hn n => ?_, fun u hn n => ?_⟩
  · rw [Guild.mem_roleNames, Guild.mem_roleNames, Guild.mem_names_congr (hMS.roleNamed n), hR.mem_names]
  · rw [Guild.mem_roleNames] at hn
    obtain ⟨role, hrole⟩ := SyncConfig.get?_policyMap_isSome hm
    obtain ⟨hsyncs, hname⟩ := SyncConfig.get?_policyMap hrole
    obtain ⟨id, hid⟩ := Option.isSome_iff_exists.1 (Guild.roleId?_isSome_iff.2 hn)
    -- the membership phase keeps the role the role phase wrote the policy's attributes into
    have hkept : (runCycle c store ns g).guild.roleNamed n = some (id, role.attributes) := by
      rw [hMS.roleNamed, hR.kept n role hrole hn, hid]
      rfl
    exact ⟨role, hsyncs, hname, SyncConfig.policyMap_greatest hst.wellFormed hrole,
      (Guild.roleId?_of_roleNamed hkept).trans hid.symm, Guild.roleAttributes?_of_roleNamed hkept⟩
  · rw [Guild.mem_roleNames] at hn
    obtain ⟨id, hid, hfresh⟩ := hR.created n hm hn
    rw [← hMS.roleNamed] at hid
    exact ⟨id, Guild.roleId?_of_roleNamed hid, hfresh, Guild.roleAttributes?_of_roleNamed hid⟩
  · rw [hMS.synced u (hR.keys ▸ hu) hn n, hR.holds]
    -- an ignored name is never managed
    by_cases hm : c.Manages store ns n
    · simp [hm, hm.not_ignored]
    · simp [hm]
  · rw [hMS.skipped u hn n, hR.holds]

/-- The store `twoRoleStore` is reached from the empty store by adding its filter, the filter's
member and its two roles. -/
theorem twoRoleStore_reachable : twoRoleStore.Reachable := by
  have h₁ : (({} : Store).addFilter "corp" ⟨"members", "members filter"⟩).store =
      { namespaces := [("corp", { filters := [("members", ⟨"members", "members filter"⟩)], members := [("members", [])] })] } := by
    rfl
  have h₂ : Store.addMembers
      { namespaces := [("corp", { filters := [("members", ⟨"members", "members filter"⟩)], members := [("members", [])] })] }
      "corp" "members" [⟨"1"⟩] = .ok
      { namespaces := [("corp", { filters := [("members", ⟨"members", "members filter"⟩)], members := [("members", [⟨"1"⟩])] })] } := by
    rfl
  have h₃ : (Store.addRole
      { namespaces := [("corp", { filters := [("members", ⟨"members", "members filter"⟩)], members := [("members", [⟨"1"⟩])] })] }
      "corp" (membersRole "a" "A")).store =
      { namespaces := [("corp", { filters := [("members", ⟨"members", "members filter"⟩)], members := [("members", [⟨"1"⟩])],
                                  roles := [("a", membersRole "a" "A")] })] } := by
    rfl
  have h₄ : (Store.addRole
      { namespaces := [("corp", { filters := [("members", ⟨"members", "members filter"⟩)], members := [("members", [⟨"1"⟩])],
                                  roles := [("a", membersRole "a" "A")] })] }
      "corp" (membersRole "b" "B")).store = twoRoleStore := by
    rfl
  have r₁ := h₁ ▸ Store.Reachable.addFilter .empty
  have r₃ := h₃ ▸ Store.Reachable.addRole (.addMembers r₁ h₂)
  exact h₄ ▸ Store.Reachable.addRole r₃

/-- A healthy guild with the managed role `B`, an unmanaged role `X`, and two members. -/
def mixedGuild : Guild :=
  { roles := [(⟨"0"⟩, .named "@everyone"), (⟨"1"⟩, .named "B"), (⟨"5"⟩, .named "X")]
    members := [(⟨"1"⟩, ⟨"user1", [⟨"5"⟩]⟩), (⟨"2"⟩, ⟨"user2", [⟨"1"⟩]⟩)] }

theorem mixedGuild_wellFormed : mixedGuild.WellFormed :=
  ⟨by unfold Sorted.Keyed Sorted.Increasing; decide, by unfold Sorted.Keyed Sorted.Increasing; decide, by decide⟩

theorem runCycle_reconciles_mixedGuild : twoRoleStore.Reachable ∧ mixedGuild.WellFormed ∧
    mixedGuild.names.Nodup ∧ mixedGuild.stale = [] ∧ mixedGuild.faults = {} ∧
    (∀ d, mixedGuild.editDelay = some d → d.endsWithin ({} : SyncConfig).editRoleTimeout = true) ∧
    ∃ rep, (runCycle {} twoRoleStore "corp" mixedGuild).result = .ok rep ∧
      (∀ n, n ∈ (runCycle {} twoRoleStore "corp" mixedGuild).guild.roleNames ↔
        SyncConfig.Manages {} twoRoleStore "corp" n ∨
          (n ∈ mixedGuild.roleNames ∧ n ∈ ({} : SyncConfig).ignoredRoleNames)) ∧
      (∀ n ∈ mixedGuild.roleNames, SyncConfig.Manages {} twoRoleStore "corp" n →
        ∃ r, SyncConfig.Syncs {} twoRoleStore "corp" r ∧ r.name = n ∧
          (∀ r', SyncConfig.Syncs {} twoRoleStore "corp" r' → r'.name = n → r' ≠ r →
            r'.shortName < r.shortName) ∧
          (runCycle {} twoRoleStore "corp" mixedGuild).guild.roleId? n = mixedGuild.roleId? n ∧
          (runCycle {} twoRoleStore "corp" mixedGuild).guild.roleAttributes? n = some r.attributes) ∧
      (∀ n ∉ mixedGuild.roleNames, SyncConfig.Manages {} twoRoleStore "corp" n →
        ∃ id, (runCycle {} twoRoleStore "corp" mixedGuild).guild.roleId? n = some id ∧
          mixedGuild.hasRole id = false ∧
          (runCycle {} twoRoleStore "corp" mixedGuild).guild.roleAttributes? n = some (.named n)) ∧
      (runCycle {} twoRoleStore "corp" mixedGuild).guild.members.map Prod.fst =
        mixedGuild.members.map Prod.fst ∧
      (∀ u ∈ mixedGuild.members.map Prod.fst, u ∉ ({} : SyncConfig).noSyncUsers → ∀ n,
        ((runCycle {} twoRoleStore "corp" mixedGuild).guild.Holds u n ↔
          SyncConfig.Wants {} twoRoleStore "corp" u n ∨
            (mixedGuild.Holds u n ∧ n ∈ ({} : SyncConfig).ignoredRoleNames))) ∧
      ∀ u ∈ ({} : SyncConfig).noSyncUsers, ∀ n,
        ((runCycle {} twoRoleStore "corp" mixedGuild).guild.Holds u n ↔
          mixedGuild.Holds u n ∧
            (SyncConfig.Manages {} twoRoleStore "corp" n ∨ n ∈ ({} : SyncConfig).ignoredRoleNames)) :=
  have hd : ∀ d, mixedGuild.editDelay = some d → d.endsWithin ({} : SyncConfig).editRoleTimeout = true :=
    fun _ h => by cases h
  ⟨twoRoleStore_reachable, mixedGuild_wellFormed, by decide, rfl, rfl, hd,
    runCycle_reconciles twoRoleStore_reachable mixedGuild_wellFormed (by decide) rfl rfl hd⟩

end Cycle

end GuildRoles

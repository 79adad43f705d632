import GuildRoles.Proofs.Reconcile
import Mathlib.Logic.Function.Iterate

/-!
# A cycle after a cycle

A guild that a cycle has left, from a healthy one, is reconciled: healthy, with a role for every
managed name and otherwise only ignored roles, and with every member not on the no-sync list
settled (`Reconciled`, `runCycle_reconciled`). On a reconciled guild the role plan creates and
deletes nothing and edits every managed name (`rolePlan_reconciled`), and the membership phase
updates nobody, so a cycle only writes the policy's attributes into the managed roles
(`runCycle_of_reconciled`). Once they carry them (`Attuned`), a cycle leaves the roles and the
seats exactly as they were, and so does every later cycle (`iterate_runCycle_attuned`).
-/

namespace GuildRoles

namespace Cycle

variable {c : SyncConfig} {store : Store} {ns : Namespace} {g : Guild}

/-- A guild as a cycle leaves a healthy one: healthy, with a role for every managed name and
otherwise only ignored roles, and with every member not on the no-sync list settled. -/
structure Reconciled (c : SyncConfig) (store : Store) (ns : Namespace) (g : Guild) : Prop where
  healthy : g.Healthy c.editRoleTimeout
  managed : ∀ n, c.Manages store ns n → n ∈ g.names
  covered : ∀ n ∈ g.names, c.Manages store ns n ∨ n ∈ c.ignoredRoleNames
  settled : ∀ u ∈ g.members.map Prod.fst, u ∉ c.noSyncUsers → Settled c store ns g u

/-- The managed roles of a guild carry the attributes of the policy's roles of their names. -/
def Attuned (c : SyncConfig) (store : Store) (ns : Namespace) (g : Guild) : Prop :=
  ∀ n r, Sorted.get? n (c.policyMap store ns) = some r → g.roleAttributes? n = some r.attributes

/-- A cycle on a healthy guild leaves it reconciled. -/
theorem runCycle_reconciled (hh : g.Healthy c.editRoleTimeout) (hs : store.WellFormed) :
    Reconciled c store ns (runCycle c store ns g).guild := by
  obtain ⟨M, g₁, rep, ups, -, -, hR, hMS, -, -, -, -⟩ := runCycle_healthy ns hh hs
  have hnames : (runCycle c store ns g).guild.names = g₁.names := by
    simp only [Guild.names, hMS.roles]
  refine ⟨hMS.healthy, fun n hn => hnames ▸ hR.mem_names.2 (.inl hn), fun n hn => ?_, fun u hu hn n => ?_⟩
  · exact (hR.mem_names.1 (hnames ▸ hn)).imp_right And.right
  · rw [hMS.keys] at hu
    rw [hMS.synced u hu hn n]
    -- a wanted name is managed
    constructor
    · rintro ⟨hw | ⟨-, hm'⟩, hm⟩
      · exact hw
      · exact absurd hm hm'
    · exact fun hw => ⟨.inl hw, hw.manages⟩

section Reconciled

variable (h : Reconciled c store ns g)
include h

/-- On a reconciled guild the role plan creates and deletes nothing and edits every managed
name, in name order. -/
theorem rolePlan_reconciled {M : RoleMap} (hM : Session.roles g = .ok M) :
    rolePlan c store ns M = ⟨[], [], Sorted.ofList ((c.synced store ns).map Role.name)⟩ := by
  have hcreate : (rolePlan c store ns M).create = [] := List.eq_nil_iff_forall_not_mem.2 fun n hn => by
    obtain ⟨hm, hn⟩ := (mem_rolePlan_create h.healthy hM).1 hn
    exact hn (h.managed n hm)
  have hdelete : (rolePlan c store ns M).delete = [] := List.eq_nil_iff_forall_not_mem.2 fun n hn => by
    obtain ⟨hn, hi, hm⟩ := (mem_rolePlan_delete h.healthy hM).1 hn
    exact (h.covered n hn).elim hm hi
  have hupdate : (rolePlan c store ns M).update = Sorted.ofList ((c.synced store ns).map Role.name) := by
    -- both are the managed names in increasing order
    have hinc : Sorted.Increasing (rolePlan c store ns M).update :=
      Sorted.Increasing.filter (Sorted.Increasing.filter (Session.roles_keyed hM) _) _
    refine hinc.ext (Sorted.increasing_ofList _) fun n => ?_
    rw [mem_rolePlan_update h.healthy hM, Sorted.mem_ofList, List.mem_map]
    simp only [SyncConfig.mem_synced]
    exact ⟨fun hn => hn.2, fun hm => ⟨h.managed n hm, hm⟩⟩
  calc rolePlan c store ns M
      = ⟨(rolePlan c store ns M).create, (rolePlan c store ns M).delete, (rolePlan c store ns M).update⟩ := rfl
    _ = _ := by rw [hcreate, hdelete, hupdate]

/-- On a reconciled guild a cycle returns a report in which every managed name is edited and
nothing else is done: no role created or deleted, no member updated, no error. It logs one edit
per managed name, in name order, changes no role id, no unmanaged role and no seat, and leaves
the guild reconciled, with the policy's attributes in the managed roles. -/
theorem runCycle_of_reconciled (hs : store.WellFormed) :
    ∃ rep, (runCycle c store ns g).result = .ok rep ∧
      rep = { updatedRoles := Sorted.ofList ((c.synced store ns).map Role.name),
              skippedUsers := rep.skippedUsers } ∧
      (runCycle c store ns g).guild.mutations =
        g.mutations ++ (Sorted.ofList ((c.synced store ns).map Role.name)).map .editRole ∧
      (∀ n, (runCycle c store ns g).guild.roleId? n = g.roleId? n) ∧
      (∀ n, ¬ c.Manages store ns n → (runCycle c store ns g).guild.roleNamed n = g.roleNamed n) ∧
      (∀ u, Sorted.get? u (runCycle c store ns g).guild.members = Sorted.get? u g.members) ∧
      Attuned c store ns (runCycle c store ns g).guild ∧ Reconciled c store ns (runCycle c store ns g).guild := by
  obtain ⟨M, g₁, rep, ups, hM, hres, hR, hMS, hups, hframe, hrep, hmut⟩ := runCycle_healthy ns h.healthy hs
  -- a settled member stays settled through the role phase, so the membership phase updates nobody
  have hnil : ups = [] := by
    rw [← List.map_eq_nil_iff, List.eq_nil_iff_forall_not_mem]
    intro u hu
    obtain ⟨hkey, hn, hns⟩ := (hups u).1 hu
    refine hns fun n => ?_
    rw [hR.holds, ← h.settled u (hR.keys ▸ hkey) hn n]
    exact ⟨fun hh => ⟨hh.1.1, hh.2⟩, fun hh => ⟨⟨hh.1, .inl hh.2⟩, hh.2⟩⟩
  subst hnil
  rw [rolePlan_reconciled h hM] at hrep hmut
  -- the role phase writes the policy's attributes into the managed roles under their ids
  have hkept : ∀ n r, Sorted.get? n (c.policyMap store ns) = some r →
      (runCycle c store ns g).guild.roleNamed n = (g.roleId? n).map fun id => (id, r.attributes) :=
    fun n r hr => by
      rw [hMS.roleNamed, hR.kept n r hr (h.managed n (SyncConfig.manages_of_get?_policyMap hr))]
  have hunmanaged : ∀ n, ¬ c.Manages store ns n →
      (runCycle c store ns g).guild.roleNamed n = g.roleNamed n := fun n hm => by
    rw [hMS.roleNamed, hR.unmanaged n hm]
    split
    · rfl
    · rename_i hi
      -- an unmanaged name that is not ignored has no role
      exact (Guild.roleNamed_eq_none_iff.2 fun hn => (h.covered n hn).elim hm hi).symm
  refine ⟨rep, hres, by rw [hrep]; simp, by rw [hmut]; simp, fun n => ?_, hunmanaged, fun u => ?_,
    fun n r hr => ?_, runCycle_reconciled h.healthy hs⟩
  · by_cases hm : c.Manages store ns n
    · obtain ⟨r, hr⟩ := SyncConfig.get?_policyMap_isSome hm
      rw [Guild.roleId?_eq_roleNamed, hkept n r hr, Option.map_map]
      simp [Function.comp_def]
    · rw [Guild.roleId?_eq_roleNamed, Guild.roleId?_eq_roleNamed, hunmanaged n hm]
  · -- every name a member holds is managed or ignored, so the role phase keeps every seat
    rw [hframe u List.not_mem_nil,
      hR.seats u fun n hheld => h.covered n (hheld.mem_names h.healthy.wellFormed)]
  · obtain ⟨id, hid⟩ := Option.isSome_iff_exists.1
      (Guild.roleId?_isSome_iff.2 (h.managed n (SyncConfig.manages_of_get?_policyMap hr)))
    rw [Guild.roleAttributes?_eq_roleNamed, hkept n r hr, hid]
    rfl

/-- On a reconciled guild whose managed roles carry the policy's attributes, a cycle leaves the
roles as they were. -/
theorem runCycle_roles_attuned (hs : store.WellFormed) (ha : Attuned c store ns g) :
    (runCycle c store ns g).guild.roles = g.roles := by
  obtain ⟨-, -, -, -, hid, hunmanaged, -, ha', h'⟩ := runCycle_of_reconciled h hs
  refine Guild.roles_eq_of_roleNamed h.healthy.wellFormed h.healthy.uniqueNames h'.healthy.wellFormed
    h'.healthy.uniqueNames fun n => ?_
  by_cases hm : c.Manages store ns n
  · -- a managed role keeps its id, and its attributes were the policy's already
    obtain ⟨r, hr⟩ := SyncConfig.get?_policyMap_isSome hm
    exact Guild.roleNamed_ext (hid n) ((ha' n r hr).trans (ha n r hr).symm)
  · exact hunmanaged n hm

/-- From a reconciled guild whose managed roles carry the policy's attributes, every number of
cycles leaves the roles and every seat as they were. -/
theorem iterate_runCycle_attuned (hs : store.WellFormed) (ha : Attuned c store ns g) (k : ℕ) :
    Reconciled c store ns ((fun g => (runCycle c store ns g).guild)^[k] g) ∧
      Attuned c store ns ((fun g => (runCycle c store ns g).guild)^[k] g) ∧
      ((fun g => (runCycle c store ns g).guild)^[k] g).roles = g.roles ∧
      ∀ u, Sorted.get? u ((fun g => (runCycle c store ns g).guild)^[k] g).members = Sorted.get? u g.members := by
  induction k with
  | zero => exact ⟨h, ha, rfl, fun _ => rfl⟩
  | succ k ih =>
    -- the invariant is reconciled and attuned; one more cycle keeps it and the state
    obtain ⟨hk, hak, hroles, hseats⟩ := ih
    obtain ⟨-, -, -, -, -, -, hseat, ha', h'⟩ := runCycle_of_reconciled hk hs
    rw [Function.iterate_succ_apply']
    exact ⟨h', ha', (runCycle_roles_attuned hk hs hak).trans hroles, fun u => (hseat u).trans (hseats u)⟩

end Reconciled

/-- A second cycle, started right after one on a healthy guild with a store reached through its
administrative operations, returns a report with no role created or deleted, no member updated
and no error. It only logs an edit of every managed name, in name order: it changes no role id
and no seat, and leaves each managed role with the attributes of the synchronised role of that
name with the greatest short name. From then on no cycle changes the roles or a seat. -/
theorem runCycle_converges (hst : store.Reachable) (hg : g.WellFormed) (hu : g.names.Nodup)
    (hstale : g.stale = []) (hf : g.faults = {})
    (hd : ∀ d, g.editDelay = some d → d.endsWithin c.editRoleTimeout = true) :
    let g₁ := (runCycle c store ns g).guild
    let g₂ := (runCycle c store ns g₁).guild
    ∃ rep, (runCycle c store ns g₁).result = .ok rep ∧ rep.isNoop = true ∧ rep.errors = [] ∧
      g₂.mutations = g₁.mutations ++ (Sorted.ofList ((c.synced store ns).map Role.name)).map .editRole ∧
      (∀ n, g₂.roleId? n = g₁.roleId? n) ∧ (∀ u, Sorted.get? u g₂.members = Sorted.get? u g₁.members) ∧
      (∀ n, c.Manages store ns n → ∃ r, c.Syncs store ns r ∧ r.name = n ∧
        (∀ r', c.Syncs store ns r' → r'.name = n → r' ≠ r → r'.shortName < r.shortName) ∧
        g₂.roleAttributes? n = some r.attributes) ∧
      ∀ k, ((fun g => (runCycle c store ns g).guild)^[k] g₂).roles = g₂.roles ∧
        ∀ u, Sorted.get? u ((fun g => (runCycle c store ns g).guild)^[k] g₂).members =
          Sorted.get? u g₂.members := by
  intro g₁ g₂
  have hh : g.Healthy c.editRoleTimeout := ⟨hg, hg.uniqueNames_iff.2 hu, hstale, hf, hd⟩
  -- the first cycle leaves the guild reconciled, the second also attuned
  have h₁ : Reconciled c store ns g₁ := runCycle_reconciled hh hst.wellFormed
  obtain ⟨rep, hres, hrep, hmut, hid, -, hseat, ha₂, h₂⟩ := runCycle_of_reconciled h₁ hst.wellFormed
  refine ⟨rep, hres, by rw [hrep]; rfl, by rw [hrep], hmut, hid, hseat, fun n hm => ?_, fun k => ?_⟩
  · obtain ⟨r, hr⟩ := SyncConfig.get?_policyMap_isSome hm
    obtain ⟨hsyncs, hname⟩ := SyncConfig.get?_policyMap hr
    exact ⟨r, hsyncs, hname, SyncConfig.policyMap_greatest hst.wellFormed hr, ha₂ n r hr⟩
  · obtain ⟨-, -, hroles, hseats⟩ := iterate_runCycle_attuned h₂ hst.wellFormed ha₂ k
    exact ⟨hroles, hseats⟩

theorem runCycle_converges_mixedGuild : twoRoleStore.Reachable ∧ mixedGuild.WellFormed ∧
    mixedGuild.names.Nodup ∧ mixedGuild.stale = [] ∧ mixedGuild.faults = {} ∧
    (∀ d, mixedGuild.editDelay = some d → d.endsWithin ({} : SyncConfig).editRoleTimeout = true) ∧
    let g₁ := (runCycle {} twoRoleStore "corp" mixedGuild).guild
    let g₂ := (runCycle {} twoRoleStore "corp" g₁).guild
    ∃ rep, (runCycle {} twoRoleStore "corp" g₁).result = .ok rep ∧ rep.isNoop = true ∧ rep.errors = [] ∧
      g₂.mutations = g₁.mutations ++
        (Sorted.ofList ((SyncConfig.synced {} twoRoleStore "corp").map Role.name)).map .editRole ∧
      (∀ n, g₂.roleId? n = g₁.roleId? n) ∧ (∀ u, Sorted.get? u g₂.members = Sorted.get? u g₁.members) ∧
      (∀ n, SyncConfig.Manages {} twoRoleStore "corp" n → ∃ r, SyncConfig.Syncs {} twoRoleStore "corp" r ∧
        r.name = n ∧
        (∀ r', SyncConfig.Syncs {} twoRoleStore "corp" r' → r'.name = n → r' ≠ r → r'.shortName < r.shortName) ∧
        g₂.roleAttributes? n = some r.attributes) ∧
      ∀ k, ((fun g => (runCycle {} twoRoleStore "corp" g).guild)^[k] g₂).roles = g₂.roles ∧
        ∀ u, Sorted.get? u ((fun g => (runCycle {} twoRoleStore "corp" g).guild)^[k] g₂).members =
          Sorted.get? u g₂.members :=
  have hd : ∀ d, mixedGuild.editDelay = some d → d.endsWithin ({} : SyncConfig).editRoleTimeout = true :=
    fun _ h => by cases h
  ⟨twoRoleStore_reachable, mixedGuild_wellFormed, by decide, rfl, rfl, hd,
    runCycle_converges twoRoleStore_reachable mixedGuild_wellFormed (by decide) rfl rfl hd⟩

end Cycle

end GuildRoles

import GuildRoles.Proofs.RoleTable
import GuildRoles.Proofs.MemberFrame

/-!
# A cycle that meets no failure

A guild is healthy for an edit timeout when it is well formed, no two of its roles share a name,
the role listing hides no role, no failure is injected and no edit is delayed past the timeout
(`Guild.Healthy`). Every change a cycle asks of such a guild is accepted, so each loop of the role
phase does all it sets out to do, and the phases end without error:

* the role phase gives every managed name a role, keeps the id of a role it already had and
  writes the policy's attributes into it, deletes the roles of the other names that are not
  ignored, and leaves ignored roles alone (`syncRoles_healthy`);
* the membership phase gives each member not on the no-sync list exactly the managed roles the
  policy wants for them, next to the unmanaged roles they hold (`syncMembers_healthy`).
-/

namespace GuildRoles

namespace Guild

/-- A guild on which a cycle meets no failure. -/
structure Healthy (g : Guild) (timeout : Duration) : Prop where
  wellFormed : g.WellFormed
  uniqueNames : g.UniqueNames
  stale_eq : g.stale = []
  faults_eq : g.faults = {}
  delay_ok : ∀ d, g.editDelay = some d → d.endsWithin timeout = true

namespace Healthy

variable {g g' : Guild} {t : Duration} {n : String}

theorem createRole (hh : g.Healthy t) (h : g.createRole n = .ok g') : g'.Healthy t := by
  have hg := hh.wellFormed.createRole h
  have hu := hh.uniqueNames.createRole hh.wellFormed h
  obtain ⟨-, -, heq⟩ := createRole_eq_ok h
  rw [heq] at hg hu ⊢
  exact ⟨hg, hu, hh.stale_eq, hh.faults_eq, hh.delay_ok⟩

theorem deleteRole (hh : g.Healthy t) (h : g.deleteRole n = .ok g') : g'.Healthy t := by
  have hg := hh.wellFormed.deleteRole h
  have hu := hh.uniqueNames.deleteRole h
  obtain ⟨-, _, -, heq⟩ := deleteRole_eq_ok h
  rw [heq] at hg hu ⊢
  exact ⟨hg, hu, by simp [hh.stale_eq, Sorted.erase], hh.faults_eq, hh.delay_ok⟩

theorem editRole (hh : g.Healthy t) {a : RoleAttributes} (h : g.editRole a = .ok g') : g'.Healthy t := by
  have hg := hh.wellFormed.editRole h
  have hu := hh.uniqueNames.editRole hh.wellFormed h
  obtain ⟨-, _, -, heq⟩ := editRole_eq_ok h
  rw [heq] at hg hu ⊢
  exact ⟨hg, hu, hh.stale_eq, hh.faults_eq, hh.delay_ok⟩

theorem setMemberRoles (hh : g.Healthy t) {u : UserId} {ids : List RoleId}
    (h : g.setMemberRoles u ids = .ok g') : g'.Healthy t := by
  have hg := hh.wellFormed.setMemberRoles h
  obtain ⟨-, -, _, -, heq⟩ := setMemberRoles_eq_ok h
  rw [heq] at hg ⊢
  exact ⟨hg, hh.uniqueNames, hh.stale_eq, hh.faults_eq, hh.delay_ok⟩

end Healthy

end Guild

namespace Cycle

section Loops

variable {st st' : CycleState} {r : Except SyncError Unit} {L : List String}

/-- On a healthy guild `createRoles` creates every name of its list, each with a fresh id and the
attributes of a new role, and changes nothing else. -/
theorem createRoles_healthy (h : (createRoles L).run.run st = (r, st')) {t : Duration}
    (hh : st.guild.Healthy t) (hL : L.Nodup) (hnew : ∀ n ∈ L, n ∉ st.guild.names) :
    r = .ok () ∧ st'.guild.Healthy t ∧ st'.report = { st.report with addedRoles := st.report.addedRoles ++ L } ∧
      st'.guild.members = st.guild.members ∧ st'.guild.mutations = st.guild.mutations ++ L.map .createRole ∧
      (∀ u m, st'.guild.Holds u m ↔ st.guild.Holds u m) ∧
      (∀ m ∉ L, st'.guild.roleNamed m = st.guild.roleNamed m) ∧
      ∀ m ∈ L, ∃ id, st'.guild.roleNamed m = some (id, .named m) ∧ st.guild.hasRole id = false := by
  induction L generalizing st with
  | nil =>
    simp only [createRoles, run_pure] at h
    cases h
    refine ⟨rfl, hh, ?_⟩
    simp
  | cons n L ih =>
    rw [List.nodup_cons] at hL
    obtain ⟨g₁, hc⟩ := Guild.createRole_isOk (by rw [hh.faults_eq]; rfl) (hnew n List.mem_cons_self)
    have hs : Session.createRole st.guild n = .ok (.created, g₁) := by simp [Session.createRole, hc]
    simp only [createRoles, run_bind, run_get, hs, run_modify, run_record] at h
    have hnames := fun m => Guild.mem_names_createRole (m := m) hh.wellFormed hh.uniqueNames hc
    have hnamed := fun m => Guild.roleNamed_createRole (m := m) hh.wellFormed hh.uniqueNames hc
    -- the rest of the list is still new to the guild with `n` created
    have hnew' : ∀ m ∈ L, m ∉ g₁.names := fun m hm hm' =>
      ((hnames m).1 hm').elim (fun he => hL.1 (he ▸ hm)) (hnew m (List.mem_cons_of_mem _ hm))
    obtain ⟨hr, hh', hrep, hmem, hmut, hholds, hold, hcreated⟩ := ih h (hh.createRole hc) hL.2 hnew'
    have hholds₁ := fun u m => Guild.holds_createRole (v := u) (m := m) hh.wellFormed hc
    obtain ⟨-, -, hg₁⟩ := Guild.createRole_eq_ok hc
    refine ⟨hr, hh', by rw [hrep]; simp, by rw [hmem, hg₁], by rw [hmut, hg₁]; simp,
      fun u m => (hholds u m).trans (hholds₁ u m), fun m hm => ?_, fun m hm => ?_⟩
    · rw [List.mem_cons, not_or] at hm
      rw [hold m hm.2, hnamed m, if_neg hm.1]
    · rcases List.mem_cons.1 hm with rfl | hm
      · exact ⟨_, by rw [hold m hL.1, hnamed m, if_pos rfl], Guild.allocateId_fresh _⟩
      · obtain ⟨id, hid, hfresh⟩ := hcreated m hm
        refine ⟨id, hid, Bool.eq_false_iff.2 fun hhas => ?_⟩
        rw [Guild.hasRole_createRole hc hhas] at hfresh
        cases hfresh

/-- On a healthy guild `deleteRoles` deletes the role of every name of its list, and with it
every holding of that name, and changes nothing else. -/
theorem deleteRoles_healthy (h : (deleteRoles L).run.run st = (r, st')) {t : Duration}
    (hh : st.guild.Healthy t) (hL : L.Nodup) (hmem : ∀ n ∈ L, n ∈ st.guild.names) :
    r = .ok () ∧ st'.guild.Healthy t ∧
      st'.report = { st.report with removedRoles := st.report.removedRoles ++ L } ∧
      st'.guild.members.map Prod.fst = st.guild.members.map Prod.fst ∧
      st'.guild.mutations = st.guild.mutations ++ L.map .deleteRole ∧
      (∀ m, st'.guild.roleNamed m = if m ∈ L then none else st.guild.roleNamed m) ∧
      (∀ u m, st'.guild.Holds u m ↔ st.guild.Holds u m ∧ m ∉ L) ∧
      ∀ u, (∀ m ∈ L, ¬ st.guild.Holds u m) → Sorted.get? u st'.guild.members = Sorted.get? u st.guild.members := by
  induction L generalizing st with
  | nil =>
    simp only [deleteRoles, run_pure] at h
    cases h
    refine ⟨rfl, hh, ?_⟩
    simp
  | cons n L ih =>
    rw [List.nodup_cons] at hL
    obtain ⟨g₁, hd⟩ := Guild.deleteRole_isOk (by rw [hh.faults_eq]; rfl) (hmem n List.mem_cons_self)
    simp only [deleteRoles, run_bind, run_onGuild, hd, run_record] at h
    have hmem' : ∀ m ∈ L, m ∈ g₁.names := fun m hm =>
      (Guild.mem_names_deleteRole hh.wellFormed hh.uniqueNames hd).2
        ⟨hmem m (List.mem_cons_of_mem _ hm), fun he => hL.1 (he ▸ hm)⟩
    obtain ⟨hr, hh', hrep, hkeys, hmut, hnamed, hholds, hseats⟩ := ih h (hh.deleteRole hd) hL.2 hmem'
    have hseat₁ := fun u => Guild.get?_members_deleteRole hh.wellFormed hd (v := u)
    obtain ⟨-, id, -, hg₁⟩ := Guild.deleteRole_eq_ok hd
    refine ⟨hr, hh', by rw [hrep]; simp, ?_, by rw [hmut, hg₁]; simp, fun m => ?_, fun u m => ?_, fun u hu => ?_⟩
    · rw [hkeys, hg₁]
      simp [Function.comp_def]
    · rw [hnamed m, Guild.roleNamed_deleteRole hh.wellFormed hh.uniqueNames hd]
      by_cases hm : m = n <;> simp [hm]
    · rw [hholds u m, List.mem_cons, not_or]
      by_cases hm : m = n
      · -- nobody holds a deleted name
        subst hm
        simp only [not_true_eq_false, false_and, and_false, iff_false]
        exact fun h => Guild.not_holds_deleteRole hh.wellFormed hh.uniqueNames hd u h.1
      · rw [Guild.holds_deleteRole hh.wellFormed hd hm]
        simp [hm]
    · -- the other names keep their holders through the first deletion
      have hu' : ∀ m ∈ L, ¬ g₁.Holds u m := fun m hm hheld => hu m (List.mem_cons_of_mem _ hm)
        ((Guild.holds_deleteRole hh.wellFormed hd fun he => hL.1 (he ▸ hm)).1 hheld)
      rw [hseats u hu', hseat₁ u (hu n List.mem_cons_self)]

/-- On a healthy guild `editRoles` writes into the role of every name of its list the attributes
of the policy's role of that name, keeping its id, and changes nothing else. -/
theorem editRoles_healthy {session : Session} {policy : List (String × Role)}
    (h : (editRoles session policy L).run.run st = (r, st')) (hh : st.guild.Healthy session.editTimeout)
    (hpol : ∀ n ∈ L, ∃ role, Sorted.get? n policy = some role ∧ role.name = n)
    (hmem : ∀ n ∈ L, n ∈ st.guild.names) :
    r = .ok () ∧ st'.guild.Healthy session.editTimeout ∧
      st'.report = { st.report with updatedRoles := st.report.updatedRoles ++ L } ∧
      st'.guild.members = st.guild.members ∧ st'.guild.mutations = st.guild.mutations ++ L.map .editRole ∧
      (∀ u m, st'.guild.Holds u m ↔ st.guild.Holds u m) ∧
      (∀ m ∉ L, st'.guild.roleNamed m = st.guild.roleNamed m) ∧
      ∀ m ∈ L, ∀ role, Sorted.get? m policy = some role →
        st'.guild.roleNamed m = (st.guild.roleId? m).map fun id => (id, role.attributes) := by
  induction L generalizing st with
  | nil =>
    simp only [editRoles, run_pure] at h
    cases h
    refine ⟨rfl, hh, ?_⟩
    simp
  | cons n L ih =>
    obtain ⟨role, hrole, hname⟩ := hpol n List.mem_cons_self
    have hname' : role.attributes.name = n := hname
    obtain ⟨g₁, he⟩ := Guild.editRole_isOk (a := role.attributes) (by rw [hh.faults_eq]; rfl)
      (by rw [hname']; exact hmem n List.mem_cons_self)
    -- the delay, if any, ends within the timeout, so the session's edit is the guild's
    have hse : session.editRole st.guild role.attributes = .ok g₁ := by
      unfold Session.editRole
      split
      · rename_i d hdelay
        rw [if_pos (hh.delay_ok d hdelay), he]
      · exact he
    obtain ⟨clock, hrun⟩ := run_editRole session role.attributes st
    simp only [editRoles, hrole, run_bind, hrun, hse, run_record] at h
    have hnames := fun m => Guild.mem_names_editRole (m := m) hh.wellFormed hh.uniqueNames he
    obtain ⟨hr, hh', hrep, hmembers, hmut, hholds, hold, hedited⟩ :=
      ih h (hh.editRole he) (fun m hm => hpol m (List.mem_cons_of_mem _ hm))
        (fun m hm => (hnames m).2 (hmem m (List.mem_cons_of_mem _ hm)))
    have hholds₁ := fun u m => Guild.holds_editRole (v := u) (m := m) hh.wellFormed he
    have hnamed := fun m => Guild.roleNamed_editRole (m := m) hh.wellFormed hh.uniqueNames he
    have hid := fun m => Guild.roleId?_editRole (m := m) hh.wellFormed hh.uniqueNames he
    obtain ⟨-, _, -, hg₁⟩ := Guild.editRole_eq_ok he
    refine ⟨hr, hh', by rw [hrep]; simp, by rw [hmembers, hg₁], by rw [hmut, hg₁]; simp [hname'],
      fun u m => (hholds u m).trans (hholds₁ u m), fun m hm => ?_, fun m hm role' hrole' => ?_⟩
    · rw [List.mem_cons, not_or] at hm
      rw [hold m hm.2, hnamed m, if_neg (by rw [hname']; exact hm.1)]
    · by_cases hmL : m ∈ L
      · rw [hedited m hmL role' hrole', hid m]
      · -- the last edit of `m` is this one
        obtain rfl : m = n := (List.mem_cons.1 hm).resolve_right hmL
        rw [hrole] at hrole'
        cases hrole'
        rw [hold m hmL, hnamed m, if_pos hname'.symm, hname']

end Loops

end Cycle

namespace SyncConfig

variable {c : SyncConfig} {store : Store} {ns : Namespace} {n : String}

/-- The policy's synchronised roles by display name, as the role phase reads them: of two roles
of one name, the later in short-name order. -/
def policyMap (c : SyncConfig) (store : Store) (ns : Namespace) : List (String × Role) :=
  Sorted.mapOfList ((c.synced store ns).map fun r => (r.name, r))

theorem mem_keys_policyMap : n ∈ (c.policyMap store ns).map Prod.fst ↔ c.Manages store ns n := by
  rw [policyMap, Sorted.mem_keys_mapOfList, List.map_map]
  simp [Function.comp_def, Manages]

theorem get?_policyMap {r : Role} (h : Sorted.get? n (c.policyMap store ns) = some r) :
    c.Syncs store ns r ∧ r.name = n := by
  obtain ⟨r', hr', he⟩ := List.mem_map.1 (Sorted.mem_of_get?_mapOfList h)
  cases he
  exact ⟨mem_synced.1 hr', rfl⟩

theorem manages_of_get?_policyMap {r : Role} (h : Sorted.get? n (c.policyMap store ns) = some r) :
    c.Manages store ns n :=
  ⟨r, get?_policyMap h⟩

theorem get?_policyMap_isSome (h : c.Manages store ns n) : ∃ r, Sorted.get? n (c.policyMap store ns) = some r := by
  cases hget : Sorted.get? n (c.policyMap store ns) with
  | some r => exact ⟨r, rfl⟩
  | none =>
    rw [Sorted.get?_eq_none_iff, mem_keys_policyMap] at hget
    exact absurd h hget

/-- In a list of roles by increasing short name, the last role of a name has the greatest short
name of the roles of that name. -/
private theorem get?_reverse_greatest {l : List Role} (hl : l.Pairwise fun a b => a.shortName < b.shortName)
    {r : Role} (h : Sorted.get? n (l.map fun r => (r.name, r)).reverse = some r) :
    ∀ r' ∈ l, r'.name = n → r' ≠ r → r'.shortName < r.shortName := by
  induction l with
  | nil => simp at h
  | cons x xs ih =>
    rw [List.pairwise_cons] at hl
    rw [List.map_cons, List.reverse_cons, Sorted.get?_append] at h
    intro r' hr' hn hne
    cases hrest : Sorted.get? n (xs.map fun r => (r.name, r)).reverse with
    | some r₀ =>
      -- the role found comes after `x`
      rw [hrest, Option.some_or] at h
      cases h
      have hr : r ∈ xs := by
        have := List.mem_reverse.1 (Sorted.mem_of_get? hrest)
        obtain ⟨r₁, hr₁, he⟩ := List.mem_map.1 this
        cases he
        exact hr₁
      rcases List.mem_cons.1 hr' with rfl | hr'
      · exact hl.1 r hr
      · exact ih hl.2 hrest r' hr' hn hne
    | none =>
      -- no later role has the name, so the role found is `x`
      rw [hrest, Option.none_or, Sorted.get?_cons] at h
      split at h
      · cases h
        rcases List.mem_cons.1 hr' with rfl | hr'
        · exact absurd rfl hne
        · rw [Sorted.get?_eq_none_iff, List.map_reverse, List.mem_reverse, List.map_map] at hrest
          exact absurd (List.mem_map.2 ⟨r', hr', hn⟩) hrest
      · cases h

/-- The policy's role of a name has the greatest short name of the synchronised roles of that
name. -/
theorem policyMap_greatest (hs : store.WellFormed) {r : Role}
    (h : Sorted.get? n (c.policyMap store ns) = some r) :
    ∀ r', c.Syncs store ns r' → r'.name = n → r' ≠ r → r'.shortName < r.shortName := by
  rw [policyMap, Sorted.get?_mapOfList] at h
  have hsorted : (store.listRoles ns).Pairwise fun a b => a.shortName < b.shortName := hs.listRoles_sorted
  exact fun r' hr' => get?_reverse_greatest (hsorted.filter _) h r' (mem_synced.2 hr')

theorem policyMap_eq : Sorted.mapOfList ((c.synced store ns).map fun r => (r.name, r)) = c.policyMap store ns :=
  rfl

end SyncConfig

namespace Cycle

/-- What the role phase leaves of a healthy guild `g`, read by name: every managed name has a
role, the one it had with the policy's attributes written in or a new one; another name keeps
its role only when it is ignored; members hold what they held of the names that remain, and a
member holding only managed or ignored roles keeps their seat. -/
structure RolesSynced (c : SyncConfig) (store : Store) (ns : Namespace) (g g' : Guild) : Prop where
  healthy : g'.Healthy c.editRoleTimeout
  keys : g'.members.map Prod.fst = g.members.map Prod.fst
  holds : ∀ u n, g'.Holds u n ↔ g.Holds u n ∧ (c.Manages store ns n ∨ n ∈ c.ignoredRoleNames)
  kept : ∀ n role, Sorted.get? n (c.policyMap store ns) = some role → n ∈ g.names →
    g'.roleNamed n = (g.roleId? n).map fun id => (id, role.attributes)
  created : ∀ n, c.Manages store ns n → n ∉ g.names →
    ∃ id, g'.roleNamed n = some (id, .named n) ∧ g.hasRole id = false
  unmanaged : ∀ n, ¬ c.Manages store ns n →
    g'.roleNamed n = if n ∈ c.ignoredRoleNames then g.roleNamed n else none
  seats : ∀ u, (∀ n, g.Holds u n → c.Manages store ns n ∨ n ∈ c.ignoredRoleNames) →
    Sorted.get? u g'.members = Sorted.get? u g.members

section RolePhase

variable {c : SyncConfig} {store : Store} {ns : Namespace} {g : Guild} {M : RoleMap} {n : String}

/-- On a healthy guild the role map names every role. -/
theorem mem_namesExcluding_healthy (hh : g.Healthy c.editRoleTimeout) (hM : Session.roles g = .ok M) :
    n ∈ M.namesExcluding c.ignoredRoleNames ↔ n ∈ g.names ∧ n ∉ c.ignoredRoleNames := by
  have hd := hh.wellFormed.uniqueNames_iff.1 hh.uniqueNames
  rw [Session.mem_namesExcluding, ← Guild.roleNamed_isSome_iff, ← Option.isSome_map (f := Prod.fst),
    ← Guild.roleId?_eq_roleNamed, ← Session.roles_get? hM hd hh.stale_eq, ← Option.ne_none_iff_isSome,
    Ne, Sorted.get?_eq_none_iff, not_not]

/-- The role plan of a cycle, from the policy's names and the guild's unignored names. -/
def rolePlan (c : SyncConfig) (store : Store) (ns : Namespace) (M : RoleMap) : RolePlan :=
  RolePlan.ofNames ((c.policyMap store ns).map Prod.fst) (M.namesExcluding c.ignoredRoleNames)

section Plan

variable (hh : g.Healthy c.editRoleTimeout) (hM : Session.roles g = .ok M)
include hh hM

theorem mem_rolePlan_create : n ∈ (rolePlan c store ns M).create ↔ c.Manages store ns n ∧ n ∉ g.names := by
  rw [rolePlan, RolePlan.mem_create, SyncConfig.mem_keys_policyMap, mem_namesExcluding_healthy hh hM]
  constructor
  · rintro ⟨hm, hn⟩
    exact ⟨hm, fun h => hn ⟨h, hm.not_ignored⟩⟩
  · rintro ⟨hm, hn⟩
    exact ⟨hm, fun h => hn h.1⟩

theorem mem_rolePlan_delete :
    n ∈ (rolePlan c store ns M).delete ↔ n ∈ g.names ∧ n ∉ c.ignoredRoleNames ∧ ¬ c.Manages store ns n := by
  rw [rolePlan, RolePlan.mem_delete, SyncConfig.mem_keys_policyMap, mem_namesExcluding_healthy hh hM, and_assoc]

theorem mem_rolePlan_update : n ∈ (rolePlan c store ns M).update ↔ n ∈ g.names ∧ c.Manages store ns n := by
  rw [rolePlan, RolePlan.mem_update, SyncConfig.mem_keys_policyMap, mem_namesExcluding_healthy hh hM]
  exact ⟨fun h => ⟨h.1.1, h.2⟩, fun h => ⟨⟨h.1, h.2.not_ignored⟩, h.2⟩⟩

omit hh in
/-- Each list of the plan names a name once: the policy's names and the role map's are keys. -/
theorem rolePlan_nodup :
    (rolePlan c store ns M).create.Nodup ∧ (rolePlan c store ns M).delete.Nodup ∧
      (rolePlan c store ns M).update.Nodup := by
  have hP : ((c.policyMap store ns).map Prod.fst).Nodup := (Sorted.keyed_mapOfList _).nodup
  have hG : (M.namesExcluding c.ignoredRoleNames).Nodup := (Session.roles_keyed hM).nodup.filter _
  exact ⟨hP.filter _, hG.filter _, hG.filter _⟩

end Plan

/-- On a healthy guild the role phase ends without error: it creates the managed names the
guild lacks, deletes the unmanaged names that are not ignored and edits the managed names the
guild has, in that order, and leaves the guild as `RolesSynced` says. -/
theorem syncRoles_healthy {st st' : CycleState} {r : Except SyncError Unit}
    (h : (syncRoles c store ns).run.run st = (r, st')) (hh : st.guild.Healthy c.editRoleTimeout) :
    ∃ M, Session.roles st.guild = .ok M ∧ r = .ok () ∧ RolesSynced c store ns st.guild st'.guild ∧
      st'.report = { st.report with
        addedRoles := st.report.addedRoles ++ (rolePlan c store ns M).create,
        removedRoles := st.report.removedRoles ++ (rolePlan c store ns M).delete,
        updatedRoles := st.report.updatedRoles ++ (rolePlan c store ns M).update } ∧
      st'.guild.mutations = st.guild.mutations ++ (rolePlan c store ns M).create.map .createRole ++
        (rolePlan c store ns M).delete.map .deleteRole ++ (rolePlan c store ns M).update.map .editRole := by
  obtain ⟨M, hM⟩ : ∃ M, Session.roles st.guild = .ok M := ⟨_, Session.roles_eq (by simp [hh.faults_eq])⟩
  refine ⟨M, hM, ?_⟩
  simp only [syncRoles, run_bind, run_now, run_send, run_get, syncEnabledRoles_eq, run_lift_ok, hM,
    run_fatal_ok, run_since, SyncConfig.policyMap_eq] at h
  rw [show RolePlan.ofNames _ _ = rolePlan c store ns M from rfl] at h
  set plan := rolePlan c store ns M
  have hcreate : ∀ n, n ∈ plan.create ↔ c.Manages store ns n ∧ n ∉ st.guild.names :=
    fun _ => mem_rolePlan_create hh hM
  have hdelete : ∀ n, n ∈ plan.delete ↔
      n ∈ st.guild.names ∧ n ∉ c.ignoredRoleNames ∧ ¬ c.Manages store ns n :=
    fun _ => mem_rolePlan_delete hh hM
  have hupdate : ∀ n, n ∈ plan.update ↔ n ∈ st.guild.names ∧ c.Manages store ns n :=
    fun _ => mem_rolePlan_update hh hM
  obtain ⟨hcn, hdn, hun⟩ : plan.create.Nodup ∧ plan.delete.Nodup ∧ plan.update.Nodup := rolePlan_nodup hM
  -- none of the three loops fails, and each runs on the guild the one before it left
  split at h
  swap
  · rename_i st₁ h₁
    cases (createRoles_healthy h₁ hh hcn fun n hn => ((hcreate n).1 hn).2).1
  rename_i st₁ h₁
  obtain ⟨-, hh₁, hrep₁, hmem₁, hmut₁, hholds₁, hold₁, hnew₁⟩ :=
    createRoles_healthy h₁ hh hcn fun n hn => ((hcreate n).1 hn).2
  have hnamed₁ : ∀ n, n ∈ st.guild.names ∨ ¬ c.Manages store ns n →
      st₁.guild.roleNamed n = st.guild.roleNamed n := fun n hn => hold₁ n fun hc => by
    have := (hcreate n).1 hc
    tauto
  have hmem₂ : ∀ n ∈ plan.delete, n ∈ st₁.guild.names := fun n hn => by
    have hn' := (hdelete n).1 hn
    exact (Guild.mem_names_congr (hnamed₁ n (.inl hn'.1))).2 hn'.1
  split at h
  swap
  · rename_i st₂ h₂
    cases (deleteRoles_healthy h₂ hh₁ hdn hmem₂).1
  rename_i st₂ h₂
  obtain ⟨-, hh₂, hrep₂, hkeys₂, hmut₂, hnamed₂, hholds₂, hseats₂⟩ := deleteRoles_healthy h₂ hh₁ hdn hmem₂
  have hkept₂ : ∀ n, n ∈ st.guild.names ∨ ¬ c.Manages store ns n → n ∉ plan.delete →
      st₂.guild.roleNamed n = st.guild.roleNamed n := fun n hn hd => by
    rw [hnamed₂, if_neg hd, hnamed₁ n hn]
  have hpol : ∀ n ∈ plan.update, ∃ role, Sorted.get? n (c.policyMap store ns) = some role ∧ role.name = n :=
    fun n hn => by
      obtain ⟨role, hrole⟩ := SyncConfig.get?_policyMap_isSome ((hupdate n).1 hn).2
      exact ⟨role, hrole, (SyncConfig.get?_policyMap hrole).2⟩
  have hmem₃ : ∀ n ∈ plan.update, n ∈ st₂.guild.names := fun n hn => by
    have hn' := (hupdate n).1 hn
    exact (Guild.mem_names_congr (hkept₂ n (.inl hn'.1) fun hd => ((hdelete n).1 hd).2.2 hn'.2)).2 hn'.1
  split at h
  swap
  · rename_i st₃ h₃
    cases (editRoles_healthy h₃ hh₂ hpol hmem₃).1
  rename_i st₃ h₃
  obtain ⟨-, hh₃, hrep₃, hmembers₃, hmut₃, hholds₃, hold₃, hedited₃⟩ := editRoles_healthy h₃ hh₂ hpol hmem₃
  cases h
  refine ⟨rfl, ⟨hh₃, ?_, fun u n => ?_, fun n role hrole hn => ?_, fun n hm hn => ?_, fun n hm => ?_,
    fun u hu => ?_⟩, ?_, ?_⟩
  · rw [hmembers₃, hkeys₂, hmem₁]
  · -- a name someone holds is on the guild, so it is deleted exactly when it is neither managed
    -- nor ignored
    rw [hholds₃, hholds₂, hholds₁]
    constructor
    · rintro ⟨hu, hd⟩
      refine ⟨hu, ?_⟩
      by_contra hno
      exact hd ((hdelete n).2 ⟨hu.mem_names hh.wellFormed, by tauto⟩)
    · rintro ⟨hu, hmi⟩
      refine ⟨hu, fun hd => ?_⟩
      have := (hdelete n).1 hd
      tauto
  · have hm : c.Manages store ns n := SyncConfig.manages_of_get?_policyMap hrole
    rw [hedited₃ n ((hupdate n).2 ⟨hn, hm⟩) role hrole, Guild.roleId?_eq_roleNamed, Guild.roleId?_eq_roleNamed,
      hkept₂ n (.inl hn) fun hd => ((hdelete n).1 hd).2.2 hm]
  · obtain ⟨id, hid, hfresh⟩ := hnew₁ n ((hcreate n).2 ⟨hm, hn⟩)
    refine ⟨id, ?_, hfresh⟩
    rw [hold₃ n fun hu => hn ((hupdate n).1 hu).1, hnamed₂, if_neg fun hd => ((hdelete n).1 hd).2.2 hm, hid]
  · rw [hold₃ n fun hu => hm ((hupdate n).1 hu).2, hnamed₂, hnamed₁ n (.inr hm)]
    by_cases hi : n ∈ c.ignoredRoleNames
    · rw [if_pos hi, if_neg fun hd => ((hdelete n).1 hd).2.1 hi]
    · rw [if_neg hi]
      by_cases hn : n ∈ st.guild.names
      · rw [if_pos ((hdelete n).2 ⟨hn, hi, hm⟩)]
      · rw [if_neg fun hd => hn ((hdelete n).1 hd).1]
        exact Guild.roleNamed_eq_none_iff.2 hn
  · -- a member holding only managed or ignored names holds no deleted one
    rw [hmembers₃, hseats₂ u fun n hd hheld => ?_, hmem₁]
    obtain ⟨-, hi, hm⟩ := (hdelete n).1 hd
    exact (hu n ((hholds₁ u n).1 hheld)).elim hm hi
  · simp [hrep₃, hrep₂, hrep₁]
  · simp [hmut₃, hmut₂, hmut₁]

end RolePhase

end Cycle

end GuildRoles


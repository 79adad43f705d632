import GuildRoles.Proofs.Holding
import GuildRoles.Proofs.MemberPhase

/-!
# What a cycle may change

The role phase creates, deletes and edits roles whose names are not ignored, and the membership
phase replaces the roles of members. This module says, over every guild and every store, what a
whole cycle is allowed to do.

A member update is computed from names: the plan reads the names of the roles a member holds
and turns the names it keeps or wants back into ids through the role map. Read through names, the
update keeps every unmanaged role the member holds (`update_keeps_unmanaged`) and gives or takes
only managed ones (`update_drops`, `update_adds`), up to two effects of the round trip through
the role map:

* a wanted role that the role listing hides (a stale one) has no id in the map, so it is left
  out of the update and taken from a member who holds it;
* a name that two roles share comes back as the one id the map keeps for it, so a member who
  holds the other one gets it swapped.

`MemberStep` collects what one update does; every change of the membership phase is one
(`syncMembers_steps`), and a whole cycle is role changes followed by member steps, each member
at most once (`runCycle_steps`).
-/

namespace GuildRoles

namespace Cycle

section Update

variable {c : SyncConfig} {store : Store} {ns : Namespace} {g : Guild} {M : RoleMap}
  {policy : List (UserId × List String)} {u : UserId} {s : Seat} {ids : List RoleId} {n : String}

theorem mem_managed_memberSnapshot :
    n ∈ (memberSnapshot c store ns g M policy).managed ↔ c.Manages store ns n := by
  simp [memberSnapshot, SyncConfig.Manages]

/-- An id the role map gives a name is the id of a role of that name that is not hidden. -/
theorem idNamed_of_get? (hM : Session.roles g = .ok M) {id : RoleId} (h : Sorted.get? n M = some id) :
    g.IdNamed id n ∧ n ∉ g.stale :=
  let ⟨a, ha, hn, hs⟩ := Session.roles_sound hM h
  ⟨⟨a, ha, hn⟩, hs⟩

variable (hg : g.WellFormed) (hM : Session.roles g = .ok M)
  (hp : policyOf store ns (c.synced store ns) [] = .ok policy)
  (hup : MemberPlan.updateOf (memberSnapshot c store ns g M policy) (g.view u s) = some ⟨u, ids⟩)
include hg hM hp hup

omit hM in
/-- The ids of an update, in guild words: the id the role map has for a name the member holds
and the policy does not manage, or for a name the policy wants them to hold. -/
theorem mem_update {id : RoleId} :
    id ∈ ids ↔ ∃ n, Sorted.get? n M = some id ∧
      (((∃ id' ∈ s.roles, g.IdNamed id' n) ∧ ¬ c.Manages store ns n) ∨ c.Wants store ns u n) := by
  obtain ⟨-, -, -, hids⟩ := MemberPlan.updateOf_eq_some.1 hup
  cases hids
  rw [MemberPlan.mem_payload]
  refine exists_congr fun n => and_congr_right fun _ => ?_
  rw [Guild.mem_view_roleNames hg, mem_managed_memberSnapshot]
  exact or_congr Iff.rfl ((mem_policyOf hp).2 u n)

omit hM hp in
/-- A member is updated only with an id for every unmanaged name they hold. -/
theorem update_mapped (hheld : ∃ id ∈ s.roles, g.IdNamed id n) (hn : ¬ c.Manages store ns n) :
    ∃ id, Sorted.get? n M = some id := by
  obtain ⟨-, -, hmap, -⟩ := MemberPlan.updateOf_eq_some.1 hup
  have hsome := MemberPlan.mappable_iff.1 hmap n
    (MemberPlan.mem_unmanaged.2 ⟨(Guild.mem_view_roleNames hg).2 hheld, mt mem_managed_memberSnapshot.1 hn⟩)
  exact Option.isSome_iff_exists.1 hsome

omit hg hM hp in
theorem update_not_noSync : u ∉ c.noSyncUsers :=
  (MemberPlan.updateOf_eq_some.1 hup).2.1

/-- An update keeps the names of the unmanaged roles a member holds. -/
theorem update_keeps_unmanaged (hn : ¬ c.Manages store ns n) :
    (∃ id ∈ ids, g.IdNamed id n) ↔ ∃ id ∈ s.roles, g.IdNamed id n := by
  constructor
  · rintro ⟨id, hid, hnamed⟩
    obtain ⟨n', hget, hn'⟩ := (mem_update hg hp hup).1 hid
    -- the name the map read the id for is the id's own name
    obtain rfl := hg.idNamed_unique (idNamed_of_get? hM hget).1 hnamed
    rcases hn' with ⟨hheld, -⟩ | hw
    · exact hheld
    · exact absurd hw.manages hn
  · intro hheld
    obtain ⟨id, hget⟩ := update_mapped hg hup hheld hn
    exact ⟨id, (mem_update hg hp hup).2 ⟨n, hget, .inl ⟨hheld, hn⟩⟩, (idNamed_of_get? hM hget).1⟩

/-- An id an update takes from a member is the id of a managed role the policy does not want
them to hold or that the listing hides, or of a role whose name another role has. -/
theorem update_drops (hs : Sorted.get? u g.members = some s) {id : RoleId} (hid : id ∈ s.roles)
    (hnot : id ∉ ids) :
    ∃ n, g.IdNamed id n ∧
      ((c.Manages store ns n ∧ (¬ c.Wants store ns u n ∨ n ∈ g.stale)) ∨ ∃ id' ≠ id, g.IdNamed id' n) := by
  obtain ⟨⟨id₀, a⟩, ha, rfl⟩ := List.mem_map.1 (hg.seats_exist _ (Sorted.mem_of_get? hs) id hid)
  have hheld : ∃ id' ∈ s.roles, g.IdNamed id' a.name := ⟨id₀, hid, a, ha, rfl⟩
  -- an id the map gives the name and the update carries is another id than the one dropped
  have hother : ∀ id', Sorted.get? a.name M = some id' → id' ∈ ids → ∃ id' ≠ id₀, g.IdNamed id' a.name :=
    fun id' hget hid' => ⟨id', fun h => hnot (h ▸ hid'), (idNamed_of_get? hM hget).1⟩
  refine ⟨a.name, ⟨a, ha, rfl⟩, ?_⟩
  by_cases hman : c.Manages store ns a.name
  · by_cases hw : c.Wants store ns u a.name
    · cases hget : Sorted.get? a.name M with
      | none =>
        -- a wanted name without an id in the map is a hidden one
        refine .inl ⟨hman, .inr (Classical.byContradiction fun hst => ?_)⟩
        obtain ⟨id', hid'⟩ := Session.roles_complete hM ha rfl hst
        rw [hget] at hid'
        cases hid'
      | some id' => exact .inr (hother id' hget ((mem_update hg hp hup).2 ⟨_, hget, .inr hw⟩))
    · exact .inl ⟨hman, .inl hw⟩
  · obtain ⟨id', hget⟩ := update_mapped hg hup hheld hman
    exact .inr (hother id' hget ((mem_update hg hp hup).2 ⟨_, hget, .inl ⟨hheld, hman⟩⟩))

/-- An id an update gives a member is the id of a role the policy wants them to hold, or of an
unmanaged role whose name the member holds under another id. -/
theorem update_adds {id : RoleId} (hid : id ∈ ids) (hnot : id ∉ s.roles) :
    ∃ n, g.IdNamed id n ∧
      (c.Wants store ns u n ∨ (¬ c.Manages store ns n ∧ ∃ id' ∈ s.roles, id' ≠ id ∧ g.IdNamed id' n)) := by
  obtain ⟨n, hget, hn⟩ := (mem_update hg hp hup).1 hid
  refine ⟨n, (idNamed_of_get? hM hget).1, ?_⟩
  rcases hn with ⟨⟨id', hid', hnamed⟩, hman⟩ | hw
  · exact .inr ⟨hman, id', hid', fun h => hnot (h ▸ hid'), hnamed⟩
  · exact .inl hw

end Update

/-- What the membership phase may do when it replaces the seat `s` of member `u` of guild `g` by
the ids `ids`: `u` is not on the no-sync list, the names of the unmanaged roles `u` holds stay,
and an id is taken or given only as `update_drops` and `update_adds` say. -/
structure AllowedUpdate (c : SyncConfig) (store : Store) (ns : Namespace) (g : Guild) (u : UserId)
    (s : Seat) (ids : List RoleId) : Prop where
  not_noSync : u ∉ c.noSyncUsers
  keeps_unmanaged : ∀ n, ¬ c.Manages store ns n →
    ((∃ id ∈ ids, g.IdNamed id n) ↔ ∃ id ∈ s.roles, g.IdNamed id n)
  drops : ∀ id ∈ s.roles, id ∉ ids → ∃ n, g.IdNamed id n ∧
    ((c.Manages store ns n ∧ (¬ c.Wants store ns u n ∨ n ∈ g.stale)) ∨ ∃ id' ≠ id, g.IdNamed id' n)
  adds : ∀ id ∈ ids, id ∉ s.roles → ∃ n, g.IdNamed id n ∧
    (c.Wants store ns u n ∨ (¬ c.Manages store ns n ∧ ∃ id' ∈ s.roles, id' ≠ id ∧ g.IdNamed id' n))

/-- A change of the membership phase: it replaces the seat of a member as `AllowedUpdate` says. -/
def MemberStep (c : SyncConfig) (store : Store) (ns : Namespace) (ch : Guild.Change) : Prop :=
  ∃ u ids s, ch.mutation = .setMemberRoles u ids ∧ Sorted.get? u ch.before.members = some s ∧
    AllowedUpdate c store ns ch.before u s ids

/-- Two changes do not both replace the roles of one member. -/
def DistinctMembers (a b : Guild.Change) : Prop :=
  ∀ u ids ids', a.mutation = .setMemberRoles u ids → b.mutation ≠ .setMemberRoles u ids'

section Phase

variable {c : SyncConfig} {store : Store} {ns : Namespace} {g : Guild} {M : RoleMap}
  {policy : List (UserId × List String)}

theorem allowedUpdate {u : UserId} {s : Seat} {ids : List RoleId} (hg : g.WellFormed)
    (hM : Session.roles g = .ok M) (hp : policyOf store ns (c.synced store ns) [] = .ok policy)
    (hs : Sorted.get? u g.members = some s)
    (hup : MemberPlan.updateOf (memberSnapshot c store ns g M policy) (g.view u s) = some ⟨u, ids⟩) :
    AllowedUpdate c store ns g u s ids where
  not_noSync := update_not_noSync hup
  keeps_unmanaged _ := update_keeps_unmanaged hg hM hp hup
  drops _ := update_drops hg hM hp hup hs
  adds _ := update_adds hg hM hp hup

/-- What an update allows depends on the roles and the hidden names only, not on the seats. -/
theorem AllowedUpdate.reseat {u : UserId} {s : Seat} {ids : List RoleId}
    (h : AllowedUpdate c store ns g u s ids) (members : List (UserId × Seat)) (log : List Mutation) :
    AllowedUpdate c store ns { g with members := members, mutations := log } u s ids :=
  ⟨h.not_noSync, h.keeps_unmanaged, h.drops, h.adds⟩

/-- Each update of the plan is the update of a member of the guild, from their seat. -/
theorem exists_seat_of_update (hg : g.WellFormed) {up : MemberUpdate}
    (hup : up ∈ (MemberPlan.ofSnapshot (memberSnapshot c store ns g M policy)).updates) :
    ∃ s, Sorted.get? up.userId g.members = some s ∧
      MemberPlan.updateOf (memberSnapshot c store ns g M policy) (g.view up.userId s) = some up := by
  rw [MemberPlan.ofSnapshot_updates] at hup
  obtain ⟨m, hm, hu⟩ := List.mem_filterMap.1 hup
  obtain ⟨⟨v, s⟩, he, rfl⟩ := List.mem_map.1 hm
  obtain ⟨-, -, -, rfl⟩ := MemberPlan.updateOf_eq_some.1 hu
  exact ⟨s, (Sorted.get?_eq_some_iff hg.members_keyed).2 he, hu⟩

/-- The plan updates each member at most once. -/
theorem updates_nodup (hg : g.WellFormed) :
    ((MemberPlan.ofSnapshot (memberSnapshot c store ns g M policy)).updates.map MemberUpdate.userId).Nodup := by
  refine MemberPlan.updates_userIds_sublist.nodup ?_
  have hkeys : (memberSnapshot c store ns g M policy).members.map Member.userId = g.members.map Prod.fst := by
    simp [memberSnapshot, Guild.allMembers, Guild.view, Function.comp_def]
  rw [hkeys]
  exact hg.members_keyed.nodup

/-- Changes whose mutations are updates of distinct members, in order, update distinct members. -/
theorem pairwise_distinctMembers {cs : List Guild.Change} {ups : List MemberUpdate}
    (hsub : (cs.map Guild.Change.mutation).Sublist (ups.map fun u => .setMemberRoles u.userId u.roleIds))
    (hu : (ups.map MemberUpdate.userId).Nodup) : cs.Pairwise DistinctMembers := by
  have hups : (ups.map fun u => Mutation.setMemberRoles u.userId u.roleIds).Pairwise
      fun a b => ∀ u ids ids', a = .setMemberRoles u ids → b ≠ .setMemberRoles u ids' := by
    rw [List.pairwise_map]
    refine (List.pairwise_map.1 hu).imp fun hne u ids ids' ha hb => hne ?_
    injection ha with ha
    injection hb with hb
    exact ha.trans hb.symm
  have hcs := hups.sublist hsub
  rw [List.pairwise_map] at hcs
  exact hcs

/-- Every change of the membership phase is a member step, and no two update one member. -/
theorem syncMembers_steps {st st' : CycleState} {r : Except SyncError Unit}
    (h : (syncMembers c store ns).run.run st = (r, st')) (hg : st.guild.WellFormed) :
    ∃ cs, Guild.Trace st.guild cs st'.guild ∧ (∀ ch ∈ cs, MemberStep c store ns ch) ∧
      cs.Pairwise DistinctMembers := by
  obtain ⟨g₀, ht₀, -, hphase⟩ := syncMembers_run h hg
  have hg₀ := (ht₀.wellFormed hg).1
  rcases hphase with heq | ⟨M, policy, st₁, st₂, hM, hp, hst₁, -, hupd, -, hguild, -⟩
  · -- the phase stopped before its updates
    exact ⟨[], heq ▸ ht₀, by simp, .nil⟩
  obtain ⟨-, cs, ht, hsub, hcs⟩ := updateMembers_trace hupd (updates_nodup hg₀)
  rw [hst₁] at ht hcs
  refine ⟨cs, hguild ▸ ht₀.append ht, fun ch hch => ?_, pairwise_distinctMembers hsub (updates_nodup hg₀)⟩
  -- each change is the update of a planned member, made on the planned guild with seats replaced
  obtain ⟨hbefore, hseat⟩ := hcs ch hch
  obtain ⟨up, hup, hm⟩ := List.mem_map.1 (hsub.subset (List.mem_map_of_mem hch))
  obtain ⟨s, hs, hupdate⟩ := exists_seat_of_update hg₀ hup
  refine ⟨up.userId, up.roleIds, s, hm.symm, (hseat _ _ hm.symm).trans hs, ?_⟩
  rw [hbefore]
  exact (allowedUpdate hg₀ hM hp hs hupdate).reseat _ _

/-- A cycle is a run of role changes followed by member steps, each member updated at most once. -/
theorem runCycle_steps (c : SyncConfig) (store : Store) (ns : Namespace) (hg : g.WellFormed) :
    ∃ cs₁ cs₂, Guild.Trace g (cs₁ ++ cs₂) (runCycle c store ns g).guild ∧ (∀ ch ∈ cs₁, RoleChange c ch) ∧
      (∀ ch ∈ cs₂, MemberStep c store ns ch) ∧ cs₂.Pairwise DistinctMembers := by
  rw [runCycle_guild]
  rcases h₁ : (syncRoles c store ns).run.run { guild := g } with ⟨r₁, st₁⟩
  obtain ⟨cs₁, ht₁, hroles⟩ := syncRoles_evolves h₁
  cases r₁ with
  | error e =>
    -- a failed role phase ends the cycle
    exact ⟨cs₁, [], by simpa using ht₁, hroles, by simp, .nil⟩
  | ok u =>
    cases u
    dsimp only
    rcases h₂ : (syncMembers c store ns).run.run st₁ with ⟨r₂, st₂⟩
    obtain ⟨cs₂, ht₂, hsteps, hsep⟩ := syncMembers_steps h₂ (ht₁.wellFormed hg).1
    exact ⟨cs₁, cs₂, ht₁.append ht₂, hroles, hsteps, hsep⟩

end Phase

/-! ### Member updates follow the policy -/

section Updates

variable {c : SyncConfig} {store : Store} {ns : Namespace}

/-- Each update the membership phase makes, from any state of a well-formed guild, takes from a
member only ids of managed roles that the policy does not want them to hold or that the role
listing hides, and gives them only ids of roles the policy wants them to hold; a name that two
roles share may in addition be read back as the other role's id. -/
theorem syncMembers_updates_follow_policy (st : CycleState) (hg : st.guild.WellFormed) :
    ∃ cs, Guild.Trace st.guild cs ((syncMembers c store ns).run.run st).2.guild ∧
      ∀ ch ∈ cs, ∀ u ids s, ch.mutation = .setMemberRoles u ids → Sorted.get? u ch.before.members = some s →
        (∀ id ∈ s.roles, id ∉ ids → ∃ n, ch.before.IdNamed id n ∧
          ((c.Manages store ns n ∧ (¬ c.Wants store ns u n ∨ n ∈ ch.before.stale)) ∨
            ∃ id' ≠ id, ch.before.IdNamed id' n)) ∧
        (∀ id ∈ ids, id ∉ s.roles → ∃ n, ch.before.IdNamed id n ∧
          (c.Wants store ns u n ∨ ∃ id' ∈ s.roles, id' ≠ id ∧ ch.before.IdNamed id' n)) := by
  rcases h : (syncMembers c store ns).run.run st with ⟨r, st'⟩
  obtain ⟨cs, ht, hsteps, -⟩ := syncMembers_steps h hg
  refine ⟨cs, ht, fun ch hch u ids s hm hs => ?_⟩
  obtain ⟨u', ids', s', hm', hs', hallowed⟩ := hsteps ch hch
  rw [hm] at hm'
  injection hm' with hu hids
  subst hu hids
  rw [hs] at hs'
  cases hs'
  refine ⟨hallowed.drops, fun id hid hnot => ?_⟩
  obtain ⟨n, hn, hadd⟩ := hallowed.adds id hid hnot
  exact ⟨n, hn, hadd.imp_right fun h => h.2⟩

/-- A guild with a member holding the role `A`, which the role listing hides, and a role `B`. -/
def hiddenRoleGuild : Guild :=
  { roles := [(⟨"0"⟩, RoleAttributes.named "@everyone"), (⟨"1"⟩, RoleAttributes.named "B"),
      (⟨"7"⟩, RoleAttributes.named "A")]
    members := [(⟨"1"⟩, ⟨"user1", [⟨"7"⟩]⟩)]
    stale := ["A"] }

theorem hiddenRoleGuild_wellFormed : hiddenRoleGuild.WellFormed :=
  ⟨by unfold Sorted.Keyed Sorted.Increasing; decide, by unfold Sorted.Keyed Sorted.Increasing; decide, by decide⟩

/-- A synchronised role given to the members of the filter `members`. -/
def membersRole (short name : String) : Role :=
  { shortName := short, name := name, filterA := .named "members", filterB := .wildcard, sync := true }

/-- A policy synchronising the roles `A` and `B` to the members of one filter, which holds user
`1`. -/
def twoRoleStore : Store :=
  { namespaces := [("corp",
      { filters := [("members", ⟨"members", "members filter"⟩)]
        members := [("members", [⟨"1"⟩])]
        roles := [("a", membersRole "a" "A"), ("b", membersRole "b" "B")] })] }

theorem syncMembers_updates_follow_policy_hiddenRole : hiddenRoleGuild.WellFormed ∧
    ∃ cs, Guild.Trace hiddenRoleGuild cs
        ((syncMembers {} twoRoleStore "corp").run.run { guild := hiddenRoleGuild }).2.guild ∧
      ∀ ch ∈ cs, ∀ u ids s, ch.mutation = .setMemberRoles u ids → Sorted.get? u ch.before.members = some s →
        (∀ id ∈ s.roles, id ∉ ids → ∃ n, ch.before.IdNamed id n ∧
          ((SyncConfig.Manages {} twoRoleStore "corp" n ∧
              (¬ SyncConfig.Wants {} twoRoleStore "corp" u n ∨ n ∈ ch.before.stale)) ∨
            ∃ id' ≠ id, ch.before.IdNamed id' n)) ∧
        (∀ id ∈ ids, id ∉ s.roles → ∃ n, ch.before.IdNamed id n ∧
          (SyncConfig.Wants {} twoRoleStore "corp" u n ∨ ∃ id' ∈ s.roles, id' ≠ id ∧ ch.before.IdNamed id' n)) :=
  ⟨hiddenRoleGuild_wellFormed,
    syncMembers_updates_follow_policy { guild := hiddenRoleGuild } hiddenRoleGuild_wellFormed⟩

/-- Taken literally, "an update takes only unwanted managed roles and gives only wanted ones"
fails: the membership phase takes the hidden role `A` from user `1`, who is wanted in it. -/
theorem hiddenWantedRole_taken :
    ¬ ∃ cs, Guild.Trace hiddenRoleGuild cs
        ((syncMembers {} twoRoleStore "corp").run.run { guild := hiddenRoleGuild }).2.guild ∧
      ∀ ch ∈ cs, ∀ u ids s, ch.mutation = .setMemberRoles u ids → Sorted.get? u ch.before.members = some s →
        (∀ id ∈ s.roles, id ∉ ids → ∃ n, ch.before.IdNamed id n ∧
          SyncConfig.Manages {} twoRoleStore "corp" n ∧ ¬ SyncConfig.Wants {} twoRoleStore "corp" u n) ∧
        (∀ id ∈ ids, id ∉ s.roles → ∃ n, ch.before.IdNamed id n ∧ SyncConfig.Wants {} twoRoleStore "corp" u n) := by
  rintro ⟨cs, ht, hcs⟩
  -- the phase makes one change: user `1` gets the roles `[1]`
  have hlog := ht.mutations
  have hrun : ((syncMembers {} twoRoleStore "corp").run.run { guild := hiddenRoleGuild }).2.guild.mutations =
      [.setMemberRoles ⟨"1"⟩ [⟨"1"⟩]] := by decide
  have hnil : hiddenRoleGuild.mutations = [] := rfl
  rw [hrun, hnil] at hlog
  rcases cs with _ | ⟨ch, _ | ⟨ch', cs⟩⟩
  · cases hlog
  · obtain ⟨hmembers, hroles, -⟩ := ht.head
    injection hlog with hm
    -- it takes the id `7`, whose role `A` the policy wants user `1` to hold
    obtain ⟨n, ⟨a, ha, rfl⟩, -, hw⟩ := (hcs ch List.mem_cons_self ⟨"1"⟩ [⟨"1"⟩] ⟨"user1", [⟨"7"⟩]⟩ hm.symm
      (by rw [hmembers]; rfl)).1 ⟨"7"⟩ (by decide) (by decide)
    rw [hroles] at ha
    have ha : a = RoleAttributes.named "A" := by simpa [hiddenRoleGuild] using ha
    subst ha
    exact hw ⟨membersRole "a" "A", ⟨by decide, rfl, by decide⟩, rfl, by decide⟩
  · simp at hlog

/-- A guild where the roles `5` and `6` share the name `X`; user `1` holds `5`. -/
def sharedNameGuild : Guild :=
  { roles := [(⟨"0"⟩, RoleAttributes.named "@everyone"), (⟨"1"⟩, RoleAttributes.named "B"),
      (⟨"5"⟩, RoleAttributes.named "X"), (⟨"6"⟩, RoleAttributes.named "X"), (⟨"7"⟩, RoleAttributes.named "A")]
    members := [(⟨"1"⟩, ⟨"user1", [⟨"5"⟩]⟩)] }

/-- Without its clause on names that two roles share, the statement fails even where no role is
hidden: the unmanaged name `X` of user `1` is read back as the last listed role of that name, so
the membership phase takes the id `5`, of a role the policy does not manage, and gives `6`. -/
theorem sharedNameRole_exchanged :
    ¬ ∃ cs, Guild.Trace sharedNameGuild cs
        ((syncMembers {} twoRoleStore "corp").run.run { guild := sharedNameGuild }).2.guild ∧
      ∀ ch ∈ cs, ∀ u ids s, ch.mutation = .setMemberRoles u ids → Sorted.get? u ch.before.members = some s →
        (∀ id ∈ s.roles, id ∉ ids → ∃ n, ch.before.IdNamed id n ∧
          SyncConfig.Manages {} twoRoleStore "corp" n ∧
            (¬ SyncConfig.Wants {} twoRoleStore "corp" u n ∨ n ∈ ch.before.stale)) ∧
        (∀ id ∈ ids, id ∉ s.roles → ∃ n, ch.before.IdNamed id n ∧ SyncConfig.Wants {} twoRoleStore "corp" u n) := by
  rintro ⟨cs, ht, hcs⟩
  -- the phase makes one change: user `1` gets the roles `[1, 6, 7]`
  have hlog := ht.mutations
  have hrun : ((syncMembers {} twoRoleStore "corp").run.run { guild := sharedNameGuild }).2.guild.mutations =
      [.setMemberRoles ⟨"1"⟩ [⟨"1"⟩, ⟨"6"⟩, ⟨"7"⟩]] := by decide
  have hnil : sharedNameGuild.mutations = [] := rfl
  rw [hrun, hnil] at hlog
  rcases cs with _ | ⟨ch, _ | ⟨ch', cs⟩⟩
  · cases hlog
  · obtain ⟨hmembers, hroles, -⟩ := ht.head
    injection hlog with hm
    -- it takes the id `5`, whose name `X` no synchronised role has
    obtain ⟨n, ⟨a, ha, rfl⟩, ⟨r, ⟨hr, -, -⟩, hn⟩, -⟩ := (hcs ch List.mem_cons_self ⟨"1"⟩
      [⟨"1"⟩, ⟨"6"⟩, ⟨"7"⟩] ⟨"user1", [⟨"5"⟩]⟩ hm.symm (by rw [hmembers]; rfl)).1 ⟨"5"⟩ (by decide) (by decide)
    rw [hroles] at ha
    have ha : a = RoleAttributes.named "X" := by simpa [sharedNameGuild] using ha
    subst ha
    have hlist : twoRoleStore.listRoles "corp" = [membersRole "a" "A", membersRole "b" "B"] := rfl
    rw [hlist] at hr
    simp only [List.mem_cons, List.not_mem_nil, or_false] at hr
    rcases hr with rfl | rfl <;> exact absurd hn (by decide)
  · simp at hlog

end Updates

/-! ### Ignored roles and unmanaged holdings -/

section Frame

variable {c : SyncConfig} {store : Store} {ns : Namespace} {ch : Guild.Change} {n : String}

/-- A role change names a role that is not ignored. -/
theorem RoleChange.not_ignored (h : RoleChange c ch)
    (hm : ch.mutation = .createRole n ∨ ch.mutation = .deleteRole n ∨ ch.mutation = .editRole n) :
    n ∉ c.ignoredRoleNames := by
  obtain ⟨n', hn', hm'⟩ := h
  rcases hm' with h' | h' | h' <;> rcases hm with h | h | h <;> rw [h'] at h <;> cases h <;> exact hn'

theorem RoleChange.not_member (h : RoleChange c ch) (u : UserId) (ids : List RoleId) :
    ch.mutation ≠ .setMemberRoles u ids := by
  obtain ⟨n, -, hm | hm | hm⟩ := h <;> simp [hm]

theorem MemberStep.not_roleChange (h : MemberStep c store ns ch) (n : String) :
    ¬ (ch.mutation = .createRole n ∨ ch.mutation = .deleteRole n ∨ ch.mutation = .editRole n) := by
  obtain ⟨u, ids, s, hm, -⟩ := h
  simp [hm]

/-- A role change moves no holding of an ignored name. -/
theorem RoleChange.holds_ignored (h : RoleChange c ch) (hwf : ch.before.WellFormed)
    (ha : ch.before.Accepts ch.mutation ch.after) (hn : n ∈ c.ignoredRoleNames) (u : UserId) :
    ch.after.Holds u n ↔ ch.before.Holds u n := by
  obtain ⟨n', hn', hm | hm | hm⟩ := h <;> rw [hm] at ha
  · exact Guild.holds_createRole hwf ha
  · -- the deleted name is not ignored, so it is another name than `n`
    exact Guild.holds_deleteRole hwf ha fun h => hn' (h ▸ hn)
  · obtain ⟨a, -, ha⟩ := ha
    exact Guild.holds_editRole hwf ha

/-- A member step moves no holding of a name the cycle does not manage. -/
theorem MemberStep.holds (h : MemberStep c store ns ch) (hwf : ch.before.WellFormed)
    (ha : ch.before.Accepts ch.mutation ch.after) (hn : ¬ c.Manages store ns n) (v : UserId) :
    ch.after.Holds v n ↔ ch.before.Holds v n := by
  obtain ⟨u, ids, s, hm, hs, hallowed⟩ := h
  rw [hm] at ha
  rw [Guild.holds_setMemberRoles hwf ha]
  split
  · -- the updated member: the update keeps the unmanaged names of their seat
    rename_i hv
    subst hv
    rw [hallowed.keeps_unmanaged n hn, Guild.holds_iff hwf]
    constructor
    · exact fun h => ⟨s, hs, h⟩
    · rintro ⟨s', hs', h⟩
      rw [hs] at hs'
      cases hs'
      exact h
  · rfl

/-- During a cycle, over every well-formed guild: no role whose name is ignored is created,
deleted or edited; no member on the no-sync list is updated, and no member twice; an update
keeps the names of the unmanaged roles its member holds. So who holds an ignored role is the
same after every change, and after the cycle. -/
theorem runCycle_respects_ignored (g : Guild) (hg : g.WellFormed) :
    ∃ cs, Guild.Trace g cs (runCycle c store ns g).guild ∧
      (∀ ch ∈ cs, ∀ n, ch.mutation = .createRole n ∨ ch.mutation = .deleteRole n ∨ ch.mutation = .editRole n →
        n ∉ c.ignoredRoleNames) ∧
      (∀ ch ∈ cs, ∀ u ids, ch.mutation = .setMemberRoles u ids → u ∉ c.noSyncUsers ∧
        ∀ n, ¬ c.Manages store ns n → (ch.after.Holds u n ↔ ch.before.Holds u n)) ∧
      cs.Pairwise (fun a b => ∀ u ids ids', a.mutation = .setMemberRoles u ids → b.mutation ≠ .setMemberRoles u ids') ∧
      ∀ n ∈ c.ignoredRoleNames, ∀ u, (∀ ch ∈ cs, ch.after.Holds u n ↔ ch.before.Holds u n) ∧
        ((runCycle c store ns g).guild.Holds u n ↔ g.Holds u n) := by
  obtain ⟨cs₁, cs₂, ht, hroles, hsteps, hsep⟩ := runCycle_steps c store ns hg
  have hwf := (ht.wellFormed hg).2
  have hacc := ht.accepts
  -- every change keeps who holds an ignored name
  have hkeep : ∀ ch ∈ cs₁ ++ cs₂, ∀ n ∈ c.ignoredRoleNames, ∀ u, ch.after.Holds u n ↔ ch.before.Holds u n := by
    intro ch hch n hn u
    rcases List.mem_append.1 hch with h₁ | h₂
    · exact (hroles ch h₁).holds_ignored (hwf ch hch).1 (hacc ch hch) hn u
    · exact (hsteps ch h₂).holds (hwf ch hch).1 (hacc ch hch) (fun hm => hm.not_ignored hn) u
  refine ⟨cs₁ ++ cs₂, ht, fun ch hch n hm => ?_, fun ch hch u ids hm => ?_, ?_,
    fun n hn u => ⟨fun ch hch => hkeep ch hch n hn u, ht.holds_iff_of_changes fun ch hch => hkeep ch hch n hn u⟩⟩
  · rcases List.mem_append.1 hch with h₁ | h₂
    · exact (hroles ch h₁).not_ignored hm
    · exact absurd hm ((hsteps ch h₂).not_roleChange n)
  · rcases List.mem_append.1 hch with h₁ | h₂
    · exact absurd hm ((hroles ch h₁).not_member u ids)
    obtain ⟨u', ids', s, hm', -, hallowed⟩ := hsteps ch h₂
    rw [hm] at hm'
    injection hm' with hu
    subst hu
    exact ⟨hallowed.not_noSync, fun n hn => (hsteps ch h₂).holds (hwf ch hch).1 (hacc ch hch) hn u⟩
  · -- role changes update no member
    exact List.pairwise_append.2
      ⟨List.pairwise_of_forall_mem_list fun a ha _ _ u ids _ hm => absurd hm ((hroles a ha).not_member u ids),
        hsep, fun a ha _ _ u ids _ hm => absurd hm ((hroles a ha).not_member u ids)⟩

theorem runCycle_respects_ignored_hiddenRole : hiddenRoleGuild.WellFormed ∧
    ∃ cs, Guild.Trace hiddenRoleGuild cs (runCycle {} twoRoleStore "corp" hiddenRoleGuild).guild ∧
      (∀ ch ∈ cs, ∀ n, ch.mutation = .createRole n ∨ ch.mutation = .deleteRole n ∨ ch.mutation = .editRole n →
        n ∉ SyncConfig.ignoredRoleNames {}) ∧
      (∀ ch ∈ cs, ∀ u ids, ch.mutation = .setMemberRoles u ids → u ∉ SyncConfig.noSyncUsers {} ∧
        ∀ n, ¬ SyncConfig.Manages {} twoRoleStore "corp" n → (ch.after.Holds u n ↔ ch.before.Holds u n)) ∧
      cs.Pairwise (fun a b => ∀ u ids ids', a.mutation = .setMemberRoles u ids → b.mutation ≠ .setMemberRoles u ids') ∧
      ∀ n ∈ SyncConfig.ignoredRoleNames {}, ∀ u, (∀ ch ∈ cs, ch.after.Holds u n ↔ ch.before.Holds u n) ∧
        ((runCycle {} twoRoleStore "corp" hiddenRoleGuild).guild.Holds u n ↔ hiddenRoleGuild.Holds u n) :=
  ⟨hiddenRoleGuild_wellFormed, runCycle_respects_ignored hiddenRoleGuild hiddenRoleGuild_wellFormed⟩

end Frame

end Cycle

end GuildRoles

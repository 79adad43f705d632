import GuildRoles.Sync.Plan
import GuildRoles.Proofs.SortedSets
import GuildRoles.Proofs.IdOrder
import Mathlib.Data.List.Nodup
import Mathlib.Data.List.Perm.Basic

/-!
# What the plans contain

The role plan, as sets: names only in the policy are created, names only on the guild deleted,
names on both sides edited.

The member plan makes at most one update per member, and looks at each member on their own: the
update of a member is `updateOf`, a function of the snapshot and of that member alone, so the
plan's updates are the members' updates in the order of the members (`ofSnapshot_updates`).
A member is updated when their managed roles differ from the wanted ones (`converged` fails),
they are not on the no-sync list, and each unmanaged role they hold has an id in the role map
(`mappable`); the update then carries the ids of their unmanaged roles and of the wanted ones
(`payload`).
-/

namespace GuildRoles

namespace RolePlan

variable {policy guild : List String} {n : String}

@[simp] theorem mem_create : n ∈ (ofNames policy guild).create ↔ n ∈ policy ∧ n ∉ guild :=
  Sorted.mem_diff

@[simp] theorem mem_delete : n ∈ (ofNames policy guild).delete ↔ n ∈ guild ∧ n ∉ policy :=
  Sorted.mem_diff

@[simp] theorem mem_update : n ∈ (ofNames policy guild).update ↔ n ∈ guild ∧ n ∈ policy :=
  Sorted.mem_inter

end RolePlan

namespace MemberPlan

variable (s : MembershipSnapshot) (m : Member)

/-- The names the policy wants a member to hold. -/
def desired : List String := (Sorted.get? m.userId s.policy).getD []

/-- The managed names a member holds. -/
def observed : List String := m.roleNames.filter fun n => Sorted.contains n s.managed

/-- The unmanaged names a member holds. -/
def unmanaged : List String := m.roleNames.filter fun n => !Sorted.contains n s.managed

/-- Whether a member holds exactly the managed names the policy wants. -/
def converged : Bool :=
  (observed s m).length == (desired s m).length &&
    (desired s m).all fun n => Sorted.contains n (observed s m)

/-- The unmanaged names a member holds that have no id in the role map. -/
def missing : List String := Sorted.ofList ((unmanaged s m).filter fun n => (Sorted.get? n s.roles).isNone)

/-- Whether every unmanaged name a member holds has an id in the role map. -/
def mappable : Bool := (missing s m).isEmpty

/-- The ids an update gives a member: those of their unmanaged names and of the wanted names. -/
def payload : List RoleId :=
  Sorted.ofList ((unmanaged s m).filterMap (Sorted.get? · s.roles) ++
    (desired s m).filterMap (Sorted.get? · s.roles))

/-- The update the plan makes for one member, if any. -/
def updateOf : Option MemberUpdate :=
  if converged s m || Sorted.contains m.userId s.noSync || !mappable s m then none
  else some ⟨m.userId, payload s m⟩

variable {s m}

/-- `addMember` in the words of this module. -/
theorem addMember_eq (plan : MemberPlan) :
    addMember s plan m =
      if converged s m then plan
      else if Sorted.contains m.userId s.noSync then { plan with skipped := plan.skipped ++ [m.userId] }
      else if !mappable s m then { plan with held := Sorted.put m.userId (missing s m) plan.held }
      else
        { plan with
          updates := plan.updates ++ [⟨m.userId, payload s m⟩],
          unmapped := Sorted.union plan.unmapped ((desired s m).filter fun n => (Sorted.get? n s.roles).isNone) } :=
  rfl

theorem mappable_iff : mappable s m = true ↔ ∀ n ∈ unmanaged s m, (Sorted.get? n s.roles).isSome := by
  rw [mappable, missing, List.isEmpty_iff, List.eq_nil_iff_forall_not_mem]
  simp only [Sorted.mem_ofList, List.mem_filter, Option.isNone_iff_eq_none, not_and]
  exact forall_congr' fun n => imp_congr_right fun _ => by cases Sorted.get? n s.roles <;> simp

/-- Adding a member to a plan adds their update, if any, after the others. -/
theorem addMember_updates (plan : MemberPlan) :
    (addMember s plan m).updates = plan.updates ++ (updateOf s m).toList := by
  rw [addMember_eq, updateOf]
  by_cases hc : converged s m <;> by_cases hn : Sorted.contains m.userId s.noSync <;>
    by_cases hm : mappable s m <;> simp [hc, hn, hm]

/-- The plan's updates are the members' own updates, in the order of the members. -/
theorem ofSnapshot_updates : (ofSnapshot s).updates = s.members.filterMap (updateOf s) := by
  suffices ∀ (ms : List Member) (plan : MemberPlan),
      (ms.foldl (addMember s) plan).updates = plan.updates ++ ms.filterMap (updateOf s) by
    simp only [ofSnapshot, this, List.nil_append]
  intro ms
  induction ms with
  | nil => simp
  | cons m ms ih =>
    intro plan
    rw [List.foldl_cons, ih, addMember_updates, List.filterMap_cons]
    cases updateOf s m <;> simp

theorem updateOf_eq_some {up : MemberUpdate} :
    updateOf s m = some up ↔ converged s m = false ∧ m.userId ∉ s.noSync ∧ mappable s m = true ∧
      up = ⟨m.userId, payload s m⟩ := by
  unfold updateOf
  by_cases hc : converged s m <;> by_cases hn : m.userId ∈ s.noSync <;>
    by_cases hm : mappable s m <;> simp [hc, hn, hm, @eq_comm _ up]

/-- Each member's update is theirs, so the plan updates each member at most once. -/
theorem updates_userIds_sublist :
    ((ofSnapshot s).updates.map MemberUpdate.userId).Sublist (s.members.map Member.userId) := by
  rw [ofSnapshot_updates]
  induction s.members with
  | nil => simp
  | cons m ms ih =>
    rw [List.filterMap_cons, List.map_cons]
    cases hu : updateOf s m with
    | none => exact ih.cons _
    | some up =>
      rw [(updateOf_eq_some.1 hu).2.2.2]
      exact ih.cons_cons _

@[simp] theorem mem_observed {n : String} : n ∈ observed s m ↔ n ∈ m.roleNames ∧ n ∈ s.managed := by
  simp [observed]

@[simp] theorem mem_unmanaged {n : String} : n ∈ unmanaged s m ↔ n ∈ m.roleNames ∧ n ∉ s.managed := by
  simp [unmanaged]

/-- An update gives the ids the role map has for the member's unmanaged names and for the wanted
names. -/
theorem mem_payload {id : RoleId} :
    id ∈ payload s m ↔ ∃ n, Sorted.get? n s.roles = some id ∧
      ((n ∈ m.roleNames ∧ n ∉ s.managed) ∨ n ∈ desired s m) := by
  simp only [payload, Sorted.mem_ofList, List.mem_append, List.mem_filterMap, mem_unmanaged]
  constructor
  · rintro (⟨n, hn, h⟩ | ⟨n, hn, h⟩)
    · exact ⟨n, h, .inl hn⟩
    · exact ⟨n, h, .inr hn⟩
  · rintro ⟨n, h, hn | hn⟩
    · exact .inl ⟨n, hn, h⟩
    · exact .inr ⟨n, hn, h⟩

/-- With no name twice on either side, a member is converged exactly when they hold the wanted
managed names. -/
theorem converged_iff (hd : (desired s m).Nodup) (ho : (observed s m).Nodup) :
    converged s m = true ↔ ∀ n, n ∈ observed s m ↔ n ∈ desired s m := by
  simp only [converged, Bool.and_eq_true, beq_iff_eq, List.all_eq_true, Sorted.contains_iff]
  constructor
  · rintro ⟨hlen, hsub⟩
    have hperm := (List.subperm_of_subset hd hsub).perm_of_length_le (by omega)
    exact fun n => hperm.mem_iff.symm
  · intro h
    have hperm := (List.perm_ext_iff_of_nodup ho hd).2 h
    exact ⟨hperm.length_eq, fun n hn => (h n).2 hn⟩

end MemberPlan

end GuildRoles

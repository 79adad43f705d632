import GuildRoles.Proofs.Plans

/-!
# What the member plan does with each member

The member plan sorts the members of a snapshot into four classes, in this order of precedence:
a member who holds exactly the managed names the policy wants (`Settled`, as sets) is left out
of the plan; otherwise a member on the no-sync list is skipped; otherwise a member holding an
unmanaged name without an id is held back (`HeldBack`) with the set of those names; and every
other member (`Updated`) gets one update carrying the ids of their unmanaged names and of the
wanted names. The names the updated members want that have no id are unmapped, and the users of
the policy who are not members are absent.

Each field of the plan is built by the fold over the members (`addMember`): one lemma says what
one member adds to the field, and one what the whole fold adds. The code tests convergence by
a length comparison and a one-way containment; on the sets of names the snapshot's types promise
(`MembershipSnapshot.WellFormed`) that test is `Settled` (`WellFormed.converged_iff`).

Main statement: `ofSnapshot_outcomes`.
-/

namespace GuildRoles

/-- What the types of a snapshot promise and the plan relies on: the policy is a map from users
to sets of names, and each member holds a set of names. -/
structure MembershipSnapshot.WellFormed (s : MembershipSnapshot) : Prop where
  policy_keyed : Sorted.Keyed s.policy
  policy_sets : ∀ e ∈ s.policy, e.2.Nodup
  member_sets : ∀ m ∈ s.members, m.roleNames.Nodup

namespace MemberPlan

section Classes

variable (s : MembershipSnapshot) (m : Member)

/-- A member holds exactly the managed names the policy wants for them, as sets. -/
def Settled : Prop := observed s m ⊆ desired s m ∧ desired s m ⊆ observed s m

instance : Decidable (Settled s m) := inferInstanceAs (Decidable (_ ∧ _))

/-- A member the plan holds back: not settled, not on the no-sync list, and holding an unmanaged
name that has no id. -/
def HeldBack : Prop :=
  ¬ Settled s m ∧ m.userId ∉ s.noSync ∧ ∃ n ∈ unmanaged s m, Sorted.get? n s.roles = none

/-- A member the plan updates: not settled, not on the no-sync list, and every unmanaged name
they hold has an id. -/
def Updated : Prop :=
  ¬ Settled s m ∧ m.userId ∉ s.noSync ∧ ∀ n ∈ unmanaged s m, (Sorted.get? n s.roles).isSome

instance : Decidable (Updated s m) := inferInstanceAs (Decidable (_ ∧ _ ∧ _))

/-- Whether the plan skips a member, as the fold tests it. -/
def skips : Bool := !converged s m && Sorted.contains m.userId s.noSync

/-- Whether the plan holds a member back, as the fold tests it. -/
def holdsBack : Bool := !converged s m && !Sorted.contains m.userId s.noSync && !mappable s m

/-- The names a member wants that have no id. -/
def unmappedOf : List String := (desired s m).filter fun n => (Sorted.get? n s.roles).isNone

end Classes

variable {s : MembershipSnapshot} {m : Member}

/-! ### One member -/

theorem addMember_skipped (plan : MemberPlan) :
    (addMember s plan m).skipped = plan.skipped ++ if skips s m then [m.userId] else [] := by
  rw [addMember_eq, skips]
  split_ifs <;> simp_all

theorem addMember_held (plan : MemberPlan) :
    (addMember s plan m).held =
      if holdsBack s m then Sorted.put m.userId (missing s m) plan.held else plan.held := by
  rw [addMember_eq, holdsBack]
  split_ifs <;> simp_all

theorem addMember_unmapped (plan : MemberPlan) :
    (addMember s plan m).unmapped =
      if (updateOf s m).isSome then Sorted.union plan.unmapped (unmappedOf s m) else plan.unmapped := by
  rw [addMember_eq, updateOf, unmappedOf]
  split_ifs <;> simp_all

theorem addMember_absent (plan : MemberPlan) : (addMember s plan m).absent = plan.absent := by
  rw [addMember_eq]
  split_ifs <;> rfl

/-! ### The fold over the members -/

theorem foldl_skipped (ms : List Member) (plan : MemberPlan) :
    (ms.foldl (addMember s) plan).skipped = plan.skipped ++ (ms.filter (skips s)).map Member.userId := by
  induction ms generalizing plan with
  | nil => simp
  | cons m ms ih =>
    rw [List.foldl_cons, ih, addMember_skipped, List.filter_cons]
    split <;> simp

theorem foldl_held (ms : List Member) (plan : MemberPlan) :
    (ms.foldl (addMember s) plan).held =
      (ms.filter (holdsBack s)).foldl (fun h m => Sorted.put m.userId (missing s m) h) plan.held := by
  induction ms generalizing plan with
  | nil => rfl
  | cons m ms ih =>
    rw [List.foldl_cons, ih, addMember_held, List.filter_cons]
    split <;> rfl

theorem foldl_absent (ms : List Member) (plan : MemberPlan) :
    (ms.foldl (addMember s) plan).absent = plan.absent := by
  induction ms generalizing plan with
  | nil => rfl
  | cons m ms ih => rw [List.foldl_cons, ih, addMember_absent]

/-- The fold adds to the unmapped names those that each updated member wants and that have no
id, and keeps them a set. -/
theorem foldl_unmapped (ms : List Member) {plan : MemberPlan} (h : Sorted.Increasing plan.unmapped) :
    Sorted.Increasing (ms.foldl (addMember s) plan).unmapped ∧
      ∀ n, n ∈ (ms.foldl (addMember s) plan).unmapped ↔
        n ∈ plan.unmapped ∨ ∃ m ∈ ms, (updateOf s m).isSome ∧ n ∈ unmappedOf s m := by
  induction ms generalizing plan with
  | nil => simp [h]
  | cons m ms ih =>
    rw [List.foldl_cons]
    have hstep : Sorted.Increasing (addMember s plan m).unmapped := by
      rw [addMember_unmapped]
      split
      · exact Sorted.increasing_union _ h
      · exact h
    refine ⟨(ih hstep).1, fun n => ?_⟩
    rw [(ih hstep).2, addMember_unmapped]
    simp only [List.mem_cons, or_and_right, exists_or, exists_eq_left]
    by_cases hu : (updateOf s m).isSome
    · simp only [hu, if_true, Sorted.mem_union, true_and]
      tauto
    · simp [hu]

end MemberPlan

/-! ### The plan's test of convergence -/

namespace MembershipSnapshot.WellFormed

open MemberPlan

variable {s : MembershipSnapshot} {m : Member} (hw : s.WellFormed)
include hw

theorem desired_nodup : (desired s m).Nodup := by
  unfold desired
  cases h : Sorted.get? m.userId s.policy with
  | none => exact List.nodup_nil
  | some names => exact hw.policy_sets _ (Sorted.mem_of_get? h)

theorem observed_nodup (hm : m ∈ s.members) : (observed s m).Nodup :=
  (hw.member_sets m hm).filter _

/-- On sets of names, a length comparison and a one-way containment decide equality. -/
theorem converged_iff (hm : m ∈ s.members) : converged s m = true ↔ Settled s m := by
  rw [MemberPlan.converged_iff hw.desired_nodup (hw.observed_nodup hm)]
  constructor
  · intro h
    exact ⟨fun n hn => (h n).1 hn, fun n hn => (h n).2 hn⟩
  · intro h n
    exact ⟨fun hn => h.1 hn, fun hn => h.2 hn⟩

theorem skips_iff (hm : m ∈ s.members) : skips s m = true ↔ ¬ Settled s m ∧ m.userId ∈ s.noSync := by
  rw [skips, Bool.and_eq_true, Bool.not_eq_true', Bool.eq_false_iff, Ne, hw.converged_iff hm,
    Sorted.contains_iff]

theorem holdsBack_iff (hm : m ∈ s.members) : holdsBack s m = true ↔ HeldBack s m := by
  have hmap : mappable s m = false ↔ ∃ n ∈ unmanaged s m, Sorted.get? n s.roles = none := by
    rw [← Bool.not_eq_true, mappable_iff]
    simp [and_assoc]
  rw [holdsBack, Bool.and_eq_true, Bool.and_eq_true, Bool.not_eq_true', Bool.not_eq_true',
    Bool.not_eq_true', Bool.eq_false_iff, Ne, hw.converged_iff hm, Sorted.contains_eq_false, hmap,
    HeldBack, and_assoc]

theorem updateOf_isSome_iff (hm : m ∈ s.members) : (updateOf s m).isSome ↔ Updated s m := by
  rw [Option.isSome_iff_exists]
  constructor
  · rintro ⟨up, hup⟩
    obtain ⟨hc, hn, hmap, -⟩ := updateOf_eq_some.1 hup
    exact ⟨fun hs => absurd ((hw.converged_iff hm).2 hs) (by simp [hc]), hn, mappable_iff.1 hmap⟩
  · rintro ⟨hs, hn, hmap⟩
    refine ⟨_, updateOf_eq_some.2 ⟨?_, hn, mappable_iff.2 hmap, rfl⟩⟩
    rw [Bool.eq_false_iff, Ne, hw.converged_iff hm]
    exact hs

end MembershipSnapshot.WellFormed

namespace MemberPlan

variable {s : MembershipSnapshot} {m : Member}

/-! ### The fields of the plan -/

/-- Among members with distinct ids, a member's id is among the ids of a filtered list exactly
when the member passes the filter. -/
theorem userId_mem_filter_iff {ms : List Member} (hids : (ms.map Member.userId).Nodup) (hm : m ∈ ms)
    (p : Member → Bool) : m.userId ∈ (ms.filter p).map Member.userId ↔ p m = true := by
  constructor
  · intro h
    obtain ⟨m', hm', he⟩ := List.mem_map.1 h
    have hm'ms := (List.mem_filter.1 hm').1
    rw [← List.inj_on_of_nodup_map hids hm'ms hm he]
    exact (List.mem_filter.1 hm').2
  · intro h
    exact List.mem_map_of_mem (List.mem_filter.2 ⟨hm, h⟩)

theorem ofSnapshot_absent :
    (ofSnapshot s).absent = (s.policy.map Prod.fst).filter fun u => !s.members.any fun m => m.userId == u :=
  foldl_absent _ _

/-- The absent users are the users of the policy who are not members, in the order of ids. -/
theorem ofSnapshot_absent_spec (hw : s.WellFormed) :
    Sorted.Increasing (ofSnapshot s).absent ∧
      ∀ u, u ∈ (ofSnapshot s).absent ↔ u ∈ s.policy.map Prod.fst ∧ u ∉ s.members.map Member.userId := by
  rw [ofSnapshot_absent]
  refine ⟨Sorted.Increasing.filter hw.policy_keyed _, fun u => ?_⟩
  simp [List.mem_filter]

/-- The skipped users are the members who are not settled and on the no-sync list, in the order
of the members. -/
theorem ofSnapshot_skipped (hw : s.WellFormed) :
    (ofSnapshot s).skipped =
      (s.members.filter fun m => ¬ Settled s m ∧ m.userId ∈ s.noSync).map Member.userId := by
  rw [ofSnapshot, foldl_skipped, List.nil_append]
  congr 1
  exact List.filter_congr fun m hm => Bool.eq_iff_iff.2 (by rw [hw.skips_iff hm, decide_eq_true_iff])

theorem ofSnapshot_held_eq :
    (ofSnapshot s).held =
      Sorted.mapOfList ((s.members.filter (holdsBack s)).map fun m => (m.userId, missing s m)) := by
  rw [ofSnapshot, foldl_held, Sorted.mapOfList, List.foldl_map]

/-- A name set is the set of a member's unmanaged names without an id exactly when it is what
the plan holds the member back with. -/
theorem eq_missing_iff {names : List String} :
    names = missing s m ↔ Sorted.Increasing names ∧
      ∀ n, n ∈ names ↔ n ∈ unmanaged s m ∧ Sorted.get? n s.roles = none := by
  have hmem : ∀ n, n ∈ missing s m ↔ n ∈ unmanaged s m ∧ Sorted.get? n s.roles = none := by
    simp [missing]
  constructor
  · rintro rfl
    exact ⟨Sorted.increasing_ofList _, hmem⟩
  · rintro ⟨hinc, h⟩
    exact hinc.ext (Sorted.increasing_ofList _) fun n => (h n).trans (hmem n).symm

/-- The plan holds back the members of `HeldBack`, each with the set of their unmanaged names
that have no id. -/
theorem mem_ofSnapshot_held (hw : s.WellFormed) (hids : (s.members.map Member.userId).Nodup)
    {u : UserId} {names : List String} :
    (u, names) ∈ (ofSnapshot s).held ↔ ∃ m ∈ s.members, m.userId = u ∧ HeldBack s m ∧ names = missing s m := by
  set entries := (s.members.filter (holdsBack s)).map fun m => (m.userId, missing s m)
  have hkeys : (entries.map Prod.fst).Nodup := by
    rw [List.map_map]
    exact (hids.sublist (List.filter_sublist.map _))
  rw [ofSnapshot_held_eq, ← Sorted.get?_eq_some_iff (Sorted.keyed_mapOfList _), Sorted.get?_mapOfList,
    Sorted.get?_eq_some_of_nodup (by rwa [List.map_reverse, List.nodup_reverse]), List.mem_reverse]
  simp only [List.mem_map, List.mem_filter, Prod.mk.injEq]
  constructor
  · rintro ⟨m, ⟨hm, hh⟩, rfl, rfl⟩
    exact ⟨m, hm, rfl, (hw.holdsBack_iff hm).1 hh, rfl⟩
  · rintro ⟨m, hm, rfl, hh, rfl⟩
    exact ⟨m, ⟨hm, (hw.holdsBack_iff hm).2 hh⟩, rfl, rfl⟩

/-- The updated users are the members of `Updated`, in the order of the members. -/
theorem ofSnapshot_updates_userIds (hw : s.WellFormed) :
    (ofSnapshot s).updates.map MemberUpdate.userId = (s.members.filter (Updated s ·)).map Member.userId := by
  rw [ofSnapshot_updates, List.map_filterMap]
  -- an update carries the id of its member, so mapping first is filtering first
  have : ∀ m ∈ s.members, (updateOf s m).map MemberUpdate.userId =
      if decide (Updated s m) then some m.userId else none := by
    intro m hm
    by_cases hu : Updated s m
    · obtain ⟨up, hup⟩ := Option.isSome_iff_exists.1 ((hw.updateOf_isSome_iff hm).2 hu)
      rw [hup, (updateOf_eq_some.1 hup).2.2.2]
      simp [hu]
    · have : updateOf s m = none := by
        rw [← Option.not_isSome_iff_eq_none, hw.updateOf_isSome_iff hm]
        exact hu
      simp [this, hu]
  rw [List.filterMap_congr this, ← List.filterMap_eq_map, List.filterMap_filter]
  rfl

/-- Each update gives its member the strictly increasing list of the ids of their unmanaged names
and of the wanted names that have one. -/
theorem ofSnapshot_update_roleIds (hids : (s.members.map Member.userId).Nodup) {up : MemberUpdate}
    (hup : up ∈ (ofSnapshot s).updates) (hm : m ∈ s.members) (hu : m.userId = up.userId) :
    Sorted.Increasing up.roleIds ∧
      ∀ id, id ∈ up.roleIds ↔ ∃ n, Sorted.get? n s.roles = some id ∧ (n ∈ unmanaged s m ∨ n ∈ desired s m) := by
  rw [ofSnapshot_updates, List.mem_filterMap] at hup
  obtain ⟨m', hm', hup⟩ := hup
  obtain ⟨-, -, -, rfl⟩ := updateOf_eq_some.1 hup
  -- ids are distinct, so the update's member is `m`
  obtain rfl := List.inj_on_of_nodup_map hids hm hm' hu
  refine ⟨Sorted.increasing_ofList _, fun id => ?_⟩
  rw [mem_payload]
  simp

/-- The unmapped names are those that an updated member wants and that have no id. -/
theorem ofSnapshot_unmapped (hw : s.WellFormed) :
    Sorted.Increasing (ofSnapshot s).unmapped ∧
      ∀ n, n ∈ (ofSnapshot s).unmapped ↔
        ∃ m ∈ s.members, Updated s m ∧ n ∈ desired s m ∧ Sorted.get? n s.roles = none := by
  obtain ⟨hinc, hmem⟩ := @foldl_unmapped s s.members { absent := _ } Sorted.increasing_nil
  refine ⟨hinc, fun n => ?_⟩
  rw [ofSnapshot, hmem]
  simp only [List.not_mem_nil, false_or, unmappedOf, List.mem_filter, Option.isNone_iff_eq_none]
  constructor
  · rintro ⟨m, hm, hu, hn, hr⟩
    exact ⟨m, hm, (hw.updateOf_isSome_iff hm).1 hu, hn, hr⟩
  · rintro ⟨m, hm, hu, hn, hr⟩
    exact ⟨m, hm, (hw.updateOf_isSome_iff hm).2 hu, hn, hr⟩

/-- A settled member appears nowhere in the plan. -/
theorem settled_not_in_plan (hw : s.WellFormed) (hids : (s.members.map Member.userId).Nodup)
    (hm : m ∈ s.members) (hs : Settled s m) :
    m.userId ∉ (ofSnapshot s).skipped ∧ m.userId ∉ (ofSnapshot s).held.map Prod.fst ∧
      m.userId ∉ (ofSnapshot s).updates.map MemberUpdate.userId := by
  refine ⟨?_, ?_, ?_⟩
  · rw [ofSnapshot_skipped hw, userId_mem_filter_iff hids hm, decide_eq_true_iff]
    exact fun h => h.1 hs
  · rw [ofSnapshot_held_eq, Sorted.mem_keys_mapOfList, List.map_map]
    change m.userId ∉ (s.members.filter (holdsBack s)).map Member.userId
    rw [userId_mem_filter_iff hids hm, hw.holdsBack_iff hm]
    exact fun h => h.1 hs
  · rw [ofSnapshot_updates_userIds hw, userId_mem_filter_iff hids hm, decide_eq_true_iff]
    exact fun h => h.1 hs

/-- The member plan of a snapshot whose policy maps users to sets of names and whose members hold
sets of names under distinct ids. The absent users are the policy's users who are not members, in
the order of ids. A settled member appears nowhere. The skipped users are the unsettled members
on the no-sync list, in the order of the members. The plan holds back exactly the members of
`HeldBack`, each with the set of their unmanaged names that have no id. The updates are one per
member of `Updated`, in the order of the members, each with the strictly increasing list of the
ids of the member's unmanaged names and of the wanted names that have one. The unmapped names are
those that updated members want and that have no id. -/
theorem ofSnapshot_outcomes (hw : s.WellFormed) (hids : (s.members.map Member.userId).Nodup) :
    (Sorted.Increasing (ofSnapshot s).absent ∧
      ∀ u, u ∈ (ofSnapshot s).absent ↔ u ∈ s.policy.map Prod.fst ∧ u ∉ s.members.map Member.userId) ∧
    (∀ m ∈ s.members, Settled s m →
      m.userId ∉ (ofSnapshot s).skipped ∧ m.userId ∉ (ofSnapshot s).held.map Prod.fst ∧
        m.userId ∉ (ofSnapshot s).updates.map MemberUpdate.userId) ∧
    (ofSnapshot s).skipped =
      (s.members.filter fun m => ¬ Settled s m ∧ m.userId ∈ s.noSync).map Member.userId ∧
    Sorted.Keyed (ofSnapshot s).held ∧
    (∀ u names, (u, names) ∈ (ofSnapshot s).held ↔ ∃ m ∈ s.members, m.userId = u ∧ HeldBack s m ∧
      Sorted.Increasing names ∧ ∀ n, n ∈ names ↔ n ∈ unmanaged s m ∧ Sorted.get? n s.roles = none) ∧
    (ofSnapshot s).updates.map MemberUpdate.userId = (s.members.filter (Updated s ·)).map Member.userId ∧
    (∀ up ∈ (ofSnapshot s).updates, ∀ m ∈ s.members, m.userId = up.userId →
      Sorted.Increasing up.roleIds ∧
        ∀ id, id ∈ up.roleIds ↔ ∃ n, Sorted.get? n s.roles = some id ∧ (n ∈ unmanaged s m ∨ n ∈ desired s m)) ∧
    Sorted.Increasing (ofSnapshot s).unmapped ∧
    ∀ n, n ∈ (ofSnapshot s).unmapped ↔
      ∃ m ∈ s.members, Updated s m ∧ n ∈ desired s m ∧ Sorted.get? n s.roles = none := by
  refine ⟨ofSnapshot_absent_spec hw, fun m hm hs => settled_not_in_plan hw hids hm hs,
    ofSnapshot_skipped hw, ?_, fun u names => ?_, ofSnapshot_updates_userIds hw,
    fun up hup m hm hu => ofSnapshot_update_roleIds hids hup hm hu, ofSnapshot_unmapped hw⟩
  · rw [ofSnapshot_held_eq]
    exact Sorted.keyed_mapOfList _
  · rw [mem_ofSnapshot_held hw hids]
    simp only [eq_missing_iff]

/-- A snapshot with a member of each kind: user `1` holds `Legacy`, which has no id; user `2`
holds `Booster` and wants `Pending`, which has none; user `3` is settled; user `4` is on the
no-sync list; user `5` is not a member. -/
def mixedSnapshot : MembershipSnapshot where
  members := [⟨⟨"1"⟩, "", ["Legacy"]⟩, ⟨⟨"2"⟩, "", ["Booster"]⟩, ⟨⟨"3"⟩, "", ["A"]⟩, ⟨⟨"4"⟩, "", []⟩]
  roles := [("A", ⟨"10"⟩), ("B", ⟨"11"⟩), ("Booster", ⟨"13"⟩), ("C", ⟨"12"⟩)]
  managed := ["A", "Pending"]
  policy := [(⟨"1"⟩, ["A"]), (⟨"2"⟩, ["A", "Pending"]), (⟨"3"⟩, ["A"]), (⟨"4"⟩, ["A"]), (⟨"5"⟩, ["A"])]
  noSync := [⟨"4"⟩]

/-- In `mixedSnapshot` the settled user `3` appears nowhere in the plan. -/
theorem ofSnapshot_outcomes_mixed : mixedSnapshot.WellFormed ∧
    (mixedSnapshot.members.map Member.userId).Nodup ∧
    ∀ m ∈ mixedSnapshot.members, Settled mixedSnapshot m →
      m.userId ∉ (ofSnapshot mixedSnapshot).skipped ∧ m.userId ∉ (ofSnapshot mixedSnapshot).held.map Prod.fst ∧
        m.userId ∉ (ofSnapshot mixedSnapshot).updates.map MemberUpdate.userId := by
  have hw : mixedSnapshot.WellFormed :=
    ⟨by unfold Sorted.Keyed Sorted.Increasing; decide, by decide, by decide⟩
  have hids : (mixedSnapshot.members.map Member.userId).Nodup := by decide
  exact ⟨hw, hids, (ofSnapshot_outcomes hw hids).2.1⟩

example : ofSnapshot mixedSnapshot =
    { updates := [⟨⟨"2"⟩, [⟨"10"⟩, ⟨"13"⟩]⟩], skipped := [⟨"4"⟩], absent := [⟨"5"⟩],
      unmapped := ["Pending"], held := [(⟨"1"⟩, ["Legacy"])] } := by decide

end MemberPlan

end GuildRoles

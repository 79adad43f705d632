import GuildRoles.Proofs.Holding

/-!
# Roles by name

A guild keeps its roles by id; the synchroniser reads them by name. Where no two roles share a
name (`UniqueNames`), the role of a name (`roleNamed`) is a function of the name, and the id and
the attributes a client reads for a name (`roleId?`, `roleAttributes?`) are its two parts. Each
change a guild accepts moves the role of every name in a simple way:

* creating `n` gives `n` a role with a fresh id and the attributes of a new role;
* deleting `n` takes the role of `n` away, and with it every holding of `n`;
* editing the role of `n` replaces its attributes and keeps its id;
* replacing a member's roles leaves every role as it was.

Every change keeps the names distinct. Alongside, the conditions under which a guild accepts each
change (`createRole_isOk`, …).
-/

namespace GuildRoles

namespace Guild

variable {g g' : Guild} {n m : String}

/-- The role of a name: the first in id order, and the only one when names are distinct. -/
def roleNamed (g : Guild) (n : String) : Option (RoleId × RoleAttributes) :=
  g.roles.find? fun e => e.2.name == n

theorem roleId?_eq_roleNamed : g.roleId? n = (g.roleNamed n).map Prod.fst := rfl

theorem roleAttributes?_eq_roleNamed : g.roleAttributes? n = (g.roleNamed n).map Prod.snd := rfl

theorem roleId?_of_roleNamed {e : RoleId × RoleAttributes} (h : g.roleNamed n = some e) :
    g.roleId? n = some e.1 := by
  rw [roleId?_eq_roleNamed, h]
  rfl

theorem roleAttributes?_of_roleNamed {e : RoleId × RoleAttributes} (h : g.roleNamed n = some e) :
    g.roleAttributes? n = some e.2 := by
  rw [roleAttributes?_eq_roleNamed, h]
  rfl

/-- The role of a name is its id and its attributes. -/
theorem roleNamed_ext (hid : g'.roleId? n = g.roleId? n) (ha : g'.roleAttributes? n = g.roleAttributes? n) :
    g'.roleNamed n = g.roleNamed n := by
  rw [roleId?_eq_roleNamed, roleId?_eq_roleNamed] at hid
  rw [roleAttributes?_eq_roleNamed, roleAttributes?_eq_roleNamed] at ha
  cases hx : g'.roleNamed n <;> cases hy : g.roleNamed n <;> simp_all [Prod.ext_iff]

/-- No two roles of the guild share a name. -/
def UniqueNames (g : Guild) : Prop :=
  ∀ e ∈ g.roles, ∀ e' ∈ g.roles, e.2.name = e'.2.name → e = e'

theorem WellFormed.uniqueNames_iff (hg : g.WellFormed) : g.UniqueNames ↔ g.names.Nodup := by
  have hnodup : g.roles.Nodup := hg.roles_keyed.nodup.of_map Prod.fst
  constructor
  · intro hu
    exact hnodup.map_on fun e he e' he' hn => hu e he e' he' hn
  · intro hd e he e' he' hn
    exact List.inj_on_of_nodup_map hd he he' hn

theorem roleNamed_eq_some_iff (hu : g.UniqueNames) {e : RoleId × RoleAttributes} :
    g.roleNamed n = some e ↔ e ∈ g.roles ∧ e.2.name = n := by
  constructor
  · intro h
    exact ⟨List.mem_of_find?_eq_some h, by simpa using List.find?_some h⟩
  · rintro ⟨he, rfl⟩
    obtain ⟨e', he'⟩ : ∃ e', g.roleNamed e.2.name = some e' :=
      Option.isSome_iff_exists.1 (List.find?_isSome.2 ⟨e, he, by simp⟩)
    -- the role found has the name, so it is the one role of that name
    rw [he', hu _ (List.mem_of_find?_eq_some he') _ he (by simpa using List.find?_some he')]

theorem roleNamed_eq_none_iff : g.roleNamed n = none ↔ n ∉ g.names := by
  simp [roleNamed, names, List.find?_eq_none]

theorem roleNamed_isSome_iff : (g.roleNamed n).isSome ↔ n ∈ g.names := by
  rw [← not_iff_not, Option.not_isSome_iff_eq_none, roleNamed_eq_none_iff]

theorem roleId?_isSome_iff : (g.roleId? n).isSome ↔ n ∈ g.names := by
  rw [roleId?_eq_roleNamed, Option.isSome_map, roleNamed_isSome_iff]

theorem mem_names_congr (h : g'.roleNamed n = g.roleNamed n) : n ∈ g'.names ↔ n ∈ g.names := by
  rw [← roleNamed_isSome_iff, h, roleNamed_isSome_iff]

/-- With unique names, the roles of a guild are what `roleNamed` finds. -/
theorem roles_eq_of_roleNamed (hg : g.WellFormed) (hu : g.UniqueNames) (hg' : g'.WellFormed)
    (hu' : g'.UniqueNames) (h : ∀ n, g'.roleNamed n = g.roleNamed n) : g'.roles = g.roles :=
  Sorted.Keyed.ext hg'.roles_keyed hg.roles_keyed fun e => by
    have hfound : ∀ {k : Guild}, k.UniqueNames → (e ∈ k.roles ↔ k.roleNamed e.2.name = some e) :=
      fun hk => ((roleNamed_eq_some_iff hk).trans (and_iff_left rfl)).symm
    rw [hfound hu', hfound hu, h]

/-- A name someone holds is the name of a role. -/
theorem Holds.mem_names (hg : g.WellFormed) {u : UserId} (h : g.Holds u n) : n ∈ g.names := by
  obtain ⟨s, -, id, -, a, ha, rfl⟩ := (holds_iff hg).1 h
  exact List.mem_map.2 ⟨(id, a), ha, rfl⟩

/-- An id of a well-formed guild has one role. -/
theorem WellFormed.eq_of_id (hg : g.WellFormed) {e e' : RoleId × RoleAttributes} (he : e ∈ g.roles)
    (he' : e' ∈ g.roles) (h : e.1 = e'.1) : e = e' := by
  obtain ⟨id, b⟩ := e
  obtain ⟨id', b'⟩ := e'
  obtain rfl : id = id' := h
  rw [Option.some.inj ((hg.get?_role.2 he).symm.trans (hg.get?_role.2 he'))]

section Changes

variable (hg : g.WellFormed) (hu : g.UniqueNames)
include hg hu

theorem UniqueNames.createRole (h : g.createRole n = .ok g') : g'.UniqueNames := by
  obtain ⟨-, hnone, rfl⟩ := createRole_eq_ok h
  intro e he e' he' hn
  rw [Sorted.mem_put hg.roles_keyed] at he he'
  -- the new role's name is no old role's
  rcases he with rfl | ⟨he, -⟩ <;> rcases he' with rfl | ⟨he', -⟩
  · rfl
  · exact absurd hn.symm (roleId?_eq_none.1 hnone e' he')
  · exact absurd hn (roleId?_eq_none.1 hnone e he)
  · exact hu e he e' he' hn

theorem roleNamed_createRole (h : g.createRole n = .ok g') :
    g'.roleNamed m = if m = n then some (g.allocateId.2, RoleAttributes.named n) else g.roleNamed m := by
  have hu' := hu.createRole hg h
  obtain ⟨-, hnone, rfl⟩ := createRole_eq_ok h
  apply Option.ext
  intro e
  rw [roleNamed_eq_some_iff hu', Sorted.mem_put hg.roles_keyed]
  split
  · rename_i hm
    subst hm
    rw [Option.some.injEq]
    constructor
    · rintro ⟨rfl | ⟨he, -⟩, hn⟩
      · rfl
      · exact absurd hn (roleId?_eq_none.1 hnone e he)
    · rintro rfl
      exact ⟨.inl rfl, rfl⟩
  · rename_i hm
    rw [roleNamed_eq_some_iff hu]
    constructor
    · rintro ⟨rfl | ⟨he, -⟩, hn⟩
      · exact absurd hn.symm hm
      · exact ⟨he, hn⟩
    · rintro ⟨he, hn⟩
      -- an old role keeps its id, which the new role does not take
      refine ⟨.inr ⟨he, fun hid => ?_⟩, hn⟩
      have := allocateId_fresh g
      rw [← hid, ← Bool.not_eq_true, hasRole_iff] at this
      exact this (List.mem_map_of_mem he)

omit hg in
theorem UniqueNames.deleteRole (h : g.deleteRole n = .ok g') : g'.UniqueNames := by
  obtain ⟨-, id, -, rfl⟩ := deleteRole_eq_ok h
  intro e he e' he' hn
  exact hu e (Sorted.mem_remove.1 he).1 e' (Sorted.mem_remove.1 he').1 hn

theorem roleNamed_deleteRole (h : g.deleteRole n = .ok g') :
    g'.roleNamed m = if m = n then none else g.roleNamed m := by
  have hu' := hu.deleteRole h
  obtain ⟨-, id, hid, rfl⟩ := deleteRole_eq_ok h
  obtain ⟨a, ha, hname⟩ := roleId?_eq_some hid
  -- the removed role is the one role of `n`
  have hgone : ∀ e ∈ g.roles, e.2.name = n → e.1 = id := fun e he hn =>
    by rw [hu e he (id, a) ha (hn.trans hname.symm)]
  apply Option.ext
  intro e
  rw [roleNamed_eq_some_iff hu', Sorted.mem_remove]
  split
  · rename_i hm
    subst hm
    simp only [reduceCtorEq, iff_false, not_and]
    exact fun ⟨he, hne⟩ hn => hne (hgone e he hn)
  · rename_i hm
    rw [roleNamed_eq_some_iff hu]
    constructor
    · rintro ⟨⟨he, -⟩, hn⟩
      exact ⟨he, hn⟩
    · rintro ⟨he, hn⟩
      refine ⟨⟨he, fun hid => hm ?_⟩, hn⟩
      rw [← hn, hg.eq_of_id he ha hid, hname]

/-- Once a name's role is deleted, nobody holds that name. -/
theorem not_holds_deleteRole (h : g.deleteRole n = .ok g') (v : UserId) : ¬ g'.Holds v n := by
  have hg' := hg.deleteRole h
  rw [holds_iff hg']
  rintro ⟨s, -, id, -, a, ha, hn⟩
  have := roleNamed_deleteRole hg hu h (m := n)
  rw [if_pos rfl, roleNamed_eq_none_iff] at this
  exact this (List.mem_map.2 ⟨(id, a), ha, hn⟩)

omit hu in
/-- Deleting the role of a name leaves the seat of a member who does not hold that name. -/
theorem get?_members_deleteRole (h : g.deleteRole n = .ok g') {v : UserId} (hv : ¬ g.Holds v n) :
    Sorted.get? v g'.members = Sorted.get? v g.members := by
  obtain ⟨-, id, hid, rfl⟩ := deleteRole_eq_ok h
  obtain ⟨a, ha, hname⟩ := roleId?_eq_some hid
  have hget : Sorted.get? v (g.members.map fun e => (e.1, Seat.mk e.2.username (Sorted.erase id e.2.roles))) =
      (Sorted.get? v g.members).map fun s => Seat.mk s.username (Sorted.erase id s.roles) :=
    Sorted.get?_map_values (fun s => Seat.mk s.username (Sorted.erase id s.roles)) g.members
  dsimp only
  rw [hget]
  cases hs : Sorted.get? v g.members with
  | none => rfl
  | some s =>
    -- the member does not hold the deleted id, so erasing it changes nothing
    have hnot : id ∉ s.roles := fun hid' => hv ((holds_iff hg).2 ⟨s, hs, id, hid', a, ha, hname⟩)
    have herase : Sorted.erase id s.roles = s.roles :=
      List.filter_eq_self.2 fun y hy => by simpa using fun he : id = y => hnot (he ▸ hy)
    rw [Option.map_some, herase]

theorem UniqueNames.editRole {a : RoleAttributes} (h : g.editRole a = .ok g') : g'.UniqueNames := by
  obtain ⟨-, id, hid, rfl⟩ := editRole_eq_ok h
  obtain ⟨a₀, ha₀, hname⟩ := roleId?_eq_some hid
  intro e he e' he' hn
  rw [Sorted.mem_put hg.roles_keyed] at he he'
  -- the edited role keeps its name, so it still shares it with no other role
  have hold : ∀ e ∈ g.roles, e.2.name = a.name → e = (id, a₀) := fun e he hn =>
    hu e he (id, a₀) ha₀ (hn.trans hname.symm)
  rcases he with rfl | ⟨he, hne⟩ <;> rcases he' with rfl | ⟨he', hne'⟩
  · rfl
  · exact absurd (congrArg Prod.fst (hold e' he' hn.symm)) hne'
  · exact absurd (congrArg Prod.fst (hold e he hn)) hne
  · exact hu e he e' he' hn

theorem roleNamed_editRole {a : RoleAttributes} (h : g.editRole a = .ok g') :
    g'.roleNamed m = if m = a.name then (g.roleId? a.name).map fun id => (id, a) else g.roleNamed m := by
  have hu' := hu.editRole hg h
  obtain ⟨-, id, hid, rfl⟩ := editRole_eq_ok h
  obtain ⟨a₀, ha₀, hname⟩ := roleId?_eq_some hid
  apply Option.ext
  intro e
  rw [roleNamed_eq_some_iff hu', Sorted.mem_put hg.roles_keyed, hid]
  split
  · rename_i hm
    subst hm
    simp only [Option.map_some, Option.some.injEq]
    constructor
    · rintro ⟨rfl | ⟨he, hne⟩, hn⟩
      · rfl
      · exact absurd (congrArg Prod.fst (hu e he (id, a₀) ha₀ (hn.trans hname.symm))) hne
    · rintro rfl
      exact ⟨.inl rfl, rfl⟩
  · rename_i hm
    rw [roleNamed_eq_some_iff hu]
    constructor
    · rintro ⟨rfl | ⟨he, -⟩, hn⟩
      · exact absurd hn.symm hm
      · exact ⟨he, hn⟩
    · rintro ⟨he, hn⟩
      -- another name's role is not under the edited id
      refine ⟨.inr ⟨he, fun hidx => hm ?_⟩, hn⟩
      rw [← hn, hg.eq_of_id he ha₀ hidx, hname]

theorem mem_names_createRole (h : g.createRole n = .ok g') : m ∈ g'.names ↔ m = n ∨ m ∈ g.names := by
  rw [← roleNamed_isSome_iff, ← roleNamed_isSome_iff, roleNamed_createRole hg hu h]
  split <;> simp_all

theorem mem_names_deleteRole (h : g.deleteRole n = .ok g') : m ∈ g'.names ↔ m ∈ g.names ∧ m ≠ n := by
  rw [← roleNamed_isSome_iff, ← roleNamed_isSome_iff, roleNamed_deleteRole hg hu h]
  split <;> simp_all

theorem mem_names_editRole {a : RoleAttributes} (h : g.editRole a = .ok g') : m ∈ g'.names ↔ m ∈ g.names := by
  obtain ⟨-, id, hid, -⟩ := editRole_eq_ok h
  rw [← roleNamed_isSome_iff, ← roleNamed_isSome_iff, roleNamed_editRole hg hu h]
  split
  · rename_i hm
    subst hm
    have hnamed : (g.roleNamed a.name).isSome :=
      roleNamed_isSome_iff.2 (roleId?_isSome_iff.1 (by rw [hid]; rfl))
    simp [hid, hnamed]
  · rfl

theorem roleId?_editRole {a : RoleAttributes} (h : g.editRole a = .ok g') : g'.roleId? m = g.roleId? m := by
  rw [roleId?_eq_roleNamed, roleNamed_editRole hg hu h]
  split
  · rename_i hm
    subst hm
    simp [Option.map_map, Function.comp_def, roleId?_eq_roleNamed]
  · rfl

end Changes

/-- A role a guild has stays when another role is created. -/
theorem hasRole_createRole (h : g.createRole n = .ok g') {id : RoleId} (hid : g.hasRole id = true) :
    g'.hasRole id = true := by
  obtain ⟨-, -, rfl⟩ := createRole_eq_ok h
  rw [hasRole_iff] at hid ⊢
  exact Sorted.mem_keys_put_iff.2 (.inr hid)

/-! ### When the guild accepts a change -/

theorem createRole_isOk (hf : Sorted.get? n g.faults.create = none) (hn : n ∉ g.names) :
    ∃ g', g.createRole n = .ok g' := by
  have hid : g.roleId? n = none := by rw [roleId?_eq_roleNamed, roleNamed_eq_none_iff.2 hn]; rfl
  simp only [createRole, hf, hid]
  exact ⟨_, rfl⟩

theorem deleteRole_isOk (hf : Sorted.get? n g.faults.delete = none) (hn : n ∈ g.names) :
    ∃ g', g.deleteRole n = .ok g' := by
  obtain ⟨id, hid⟩ := Option.isSome_iff_exists.1 (roleId?_isSome_iff.2 hn)
  simp only [deleteRole, hf, hid]
  exact ⟨_, rfl⟩

theorem editRole_isOk {a : RoleAttributes} (hf : Sorted.get? a.name g.faults.edit = none)
    (hn : a.name ∈ g.names) : ∃ g', g.editRole a = .ok g' := by
  obtain ⟨id, hid⟩ := Option.isSome_iff_exists.1 (roleId?_isSome_iff.2 hn)
  simp only [editRole, hf, hid]
  exact ⟨_, rfl⟩

theorem setMemberRoles_isOk {u : UserId} {ids : List RoleId} (hf : Sorted.get? u g.faults.memberUpdate = none)
    (hids : ∀ id ∈ ids, id ∈ g.roles.map Prod.fst) (hs : (Sorted.get? u g.members).isSome) :
    ∃ g', g.setMemberRoles u ids = .ok g' := by
  have hfind : ids.find? (fun id => !g.hasRole id) = none :=
    List.find?_eq_none.2 fun id hid => by simp [hasRole_iff.2 (hids id hid)]
  obtain ⟨s, hs⟩ := Option.isSome_iff_exists.1 hs
  simp only [setMemberRoles, hf, hfind, hs]
  exact ⟨_, rfl⟩

end Guild

end GuildRoles

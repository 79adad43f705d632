import GuildRoles.Proofs.GuildState

/-!
# Who holds which role

A member holds a role of a name when one of the ids of their seat is the id of a role of that
name (`holds_iff`, on a well-formed guild). This module says how each change the guild accepts
moves that relation:

* creating a role or editing one changes no holding (`holds_createRole`, `holds_editRole`): a
  new role's id is not in any seat, and an edit keeps the role's name;
* deleting the role of a name changes no holding of another name (`holds_deleteRole`);
* replacing a member's roles changes only that member's holdings (`holds_setMemberRoles`).

A holding that each change of a trace keeps is kept by the trace (`Trace.holds_iff_of_changes`).
-/

namespace GuildRoles

namespace Guild

variable {g g' : Guild} {u v : UserId} {n m : String}

/-- The role under an id is named `n`. -/
def IdNamed (g : Guild) (id : RoleId) (n : String) : Prop := ∃ a, (id, a) ∈ g.roles ∧ a.name = n

/-- Member `u` holds a role named `n`. -/
def Holds (g : Guild) (u : UserId) (n : String) : Prop :=
  ∃ names, g.memberRoles? u = some names ∧ n ∈ names

/-- An id of a well-formed guild has one role, so one name. -/
theorem WellFormed.idNamed_unique (hg : g.WellFormed) {id : RoleId} {n n' : String}
    (h : g.IdNamed id n) (h' : g.IdNamed id n') : n = n' := by
  obtain ⟨a, ha, rfl⟩ := h
  obtain ⟨b, hb, rfl⟩ := h'
  rw [Option.some.inj ((hg.get?_role.2 ha).symm.trans (hg.get?_role.2 hb))]

theorem holds_iff (hg : g.WellFormed) :
    g.Holds u n ↔ ∃ s, Sorted.get? u g.members = some s ∧ ∃ id ∈ s.roles, g.IdNamed id n := by
  unfold Holds memberRoles?
  constructor
  · rintro ⟨names, h, hn⟩
    obtain ⟨s, hs, rfl⟩ := Option.map_eq_some_iff.1 h
    exact ⟨s, hs, (mem_view_roleNames hg).1 hn⟩
  · rintro ⟨s, hs, h⟩
    exact ⟨_, by rw [hs]; rfl, (mem_view_roleNames hg).2 h⟩

/-- Holdings depend only on the seats and on the names of the ids in them. -/
private theorem holds_congr (hg : g.WellFormed) (hg' : g'.WellFormed) (hm : g'.members = g.members)
    (hn : ∀ e ∈ g.members, ∀ id ∈ e.2.roles, ∀ n, g'.IdNamed id n ↔ g.IdNamed id n) :
    g'.Holds v m ↔ g.Holds v m := by
  rw [holds_iff hg, holds_iff hg', hm]
  refine exists_congr fun s => and_congr_right fun hs => exists_congr fun id => and_congr_right fun hid => ?_
  exact hn (v, s) (Sorted.mem_of_get? hs) id hid m

theorem holds_createRole (hg : g.WellFormed) (h : g.createRole n = .ok g') :
    g'.Holds v m ↔ g.Holds v m := by
  have hg' := hg.createRole h
  obtain ⟨-, -, rfl⟩ := createRole_eq_ok h
  refine holds_congr hg hg' rfl fun e he id hid n => ?_
  -- the new role's id is in no seat, so every seated id keeps its role
  have hne : id ≠ g.allocateId.2 := by
    rintro rfl
    have := hasRole_iff.2 (hg.seats_exist e he _ hid)
    rw [allocateId_fresh] at this
    cases this
  simp only [IdNamed, Sorted.mem_put hg.roles_keyed, Prod.mk.injEq]
  constructor
  · rintro ⟨a, (⟨rfl, -⟩ | ⟨ha, -⟩), hn⟩
    · exact absurd rfl hne
    · exact ⟨a, ha, hn⟩
  · rintro ⟨a, ha, hn⟩
    exact ⟨a, .inr ⟨ha, hne⟩, hn⟩

theorem holds_editRole (hg : g.WellFormed) {a : RoleAttributes} (h : g.editRole a = .ok g') :
    g'.Holds v m ↔ g.Holds v m := by
  have hg' := hg.editRole h
  obtain ⟨-, id, hid, rfl⟩ := editRole_eq_ok h
  obtain ⟨a₀, ha₀, hname⟩ := roleId?_eq_some hid
  refine holds_congr hg hg' rfl fun _ _ id' _ n => ?_
  -- the edited role keeps its name, and every other role is untouched
  simp only [IdNamed, Sorted.mem_put hg.roles_keyed, Prod.mk.injEq]
  constructor
  · rintro ⟨b, (⟨rfl, rfl⟩ | ⟨hb, -⟩), rfl⟩
    · exact ⟨a₀, ha₀, hname⟩
    · exact ⟨b, hb, rfl⟩
  · rintro ⟨b, hb, rfl⟩
    by_cases hi : id' = id
    · subst hi
      have hb' := Option.some.inj ((hg.get?_role.2 hb).symm.trans (hg.get?_role.2 ha₀))
      subst hb'
      exact ⟨a, .inl ⟨rfl, rfl⟩, hname.symm⟩
    · exact ⟨b, .inr ⟨hb, hi⟩, rfl⟩

theorem holds_deleteRole (hg : g.WellFormed) (h : g.deleteRole n = .ok g') (hm : m ≠ n) :
    g'.Holds v m ↔ g.Holds v m := by
  have hg' := hg.deleteRole h
  obtain ⟨-, id, hid, rfl⟩ := deleteRole_eq_ok h
  obtain ⟨a₀, ha₀, hname⟩ := roleId?_eq_some hid
  rw [holds_iff hg, holds_iff hg']
  -- the deleted id is named `n`, so an id named `m` is another one and stays in every seat
  have hother : ∀ id', g.IdNamed id' m → id' ≠ id := by
    rintro id' hm' rfl
    exact hm (hg.idNamed_unique hm' ⟨a₀, ha₀, hname⟩)
  have hget : Sorted.get? v (g.members.map fun e => (e.1, Seat.mk e.2.username (Sorted.erase id e.2.roles))) =
      (Sorted.get? v g.members).map fun s => Seat.mk s.username (Sorted.erase id s.roles) :=
    Sorted.get?_map_values (fun s => Seat.mk s.username (Sorted.erase id s.roles)) g.members
  dsimp only
  simp only [hget, Option.map_eq_some_iff]
  constructor
  · rintro ⟨-, ⟨s, hs, rfl⟩, id', hid', b, hb, rfl⟩
    exact ⟨s, hs, id', (Sorted.mem_erase.1 hid').1, b, (Sorted.mem_remove.1 hb).1, rfl⟩
  · rintro ⟨s, hs, id', hid', hn'⟩
    have hne := hother id' hn'
    obtain ⟨b, hb, rfl⟩ := hn'
    exact ⟨_, ⟨s, hs, rfl⟩, id', Sorted.mem_erase.2 ⟨hid', hne⟩, b, Sorted.mem_remove.2 ⟨hb, hne⟩, rfl⟩

theorem holds_setMemberRoles (hg : g.WellFormed) {ids : List RoleId} (h : g.setMemberRoles u ids = .ok g') :
    g'.Holds v m ↔ if v = u then ∃ id ∈ ids, g.IdNamed id m else g.Holds v m := by
  have hg' := hg.setMemberRoles h
  obtain ⟨-, -, s, -, rfl⟩ := setMemberRoles_eq_ok h
  rw [holds_iff hg']
  split
  · subst v
    simp only [Sorted.get?_put_eq, if_true, Option.some.injEq, exists_eq_left', Sorted.mem_ofList]
    rfl
  · rename_i hv
    rw [holds_iff hg, Sorted.get?_put_ne hv]
    rfl

/-- A holding that no change of a trace moves is the same at both ends: page counts move none. -/
theorem Trace.holds_iff_of_changes {cs : List Change} (h : Trace g cs g')
    (hstep : ∀ c ∈ cs, (c.after.Holds v m ↔ c.before.Holds v m)) : g'.Holds v m ↔ g.Holds v m := by
  induction h with
  | done => rfl
  | count _ ih => exact ih hstep
  | accept _ _ ih =>
    rw [ih fun c hc => hstep c (List.mem_cons_of_mem _ hc)]
    exact hstep _ List.mem_cons_self

end Guild

end GuildRoles

import GuildRoles.Guild.Gateway
import GuildRoles.Proofs.IdOrder
import GuildRoles.Proofs.SortedSets
import Mathlib.Data.List.Perm.Basic
import Mathlib.Data.List.Nodup
import Std.Data.String.ToNat

/-!
# Reachable guilds

The states a guild reaches from the empty guild through its operations (`Reachable`) keep three
facts (`WellFormed`): roles are a map keyed by id, members a map keyed by user id, and every role a
member holds exists. `Reachable.wellFormed` proves it, one operation at a time.

Each change the guild accepts is described by an inversion lemma (`createRole_eq_ok`, …), and a
run of the guild through accepted changes is a `Trace`: the changes in order, each with the guild
before and after it, and only counted page requests between them. The trace is what the frame
statements about a cycle quantify over.

Main statements:
* `allocateId_fresh`: the id a new role gets is not an id of any role, by counting: of the first
  `roles.length + 1` candidate ids at least one is free.
* `Reachable.wellFormed`.
* `Trace.mutations`: a trace appends exactly its changes' mutations to the log.
-/

namespace GuildRoles

namespace Guild

/-! ### Roles and seats -/

theorem hasRole_iff {g : Guild} {id : RoleId} : g.hasRole id = true ↔ id ∈ g.roles.map Prod.fst := by
  unfold hasRole
  rw [List.any_eq_true]
  constructor
  · rintro ⟨⟨⟨t⟩, a⟩, he, h⟩
    obtain ⟨t'⟩ := id
    have : t = t' := by simpa using h
    subst this
    exact List.mem_map.2 ⟨_, he, rfl⟩
  · intro h
    obtain ⟨e, he, rfl⟩ := List.mem_map.1 h
    exact ⟨e, he, by simp⟩

theorem roleId?_eq_some {g : Guild} {n : String} {id : RoleId} (h : g.roleId? n = some id) :
    ∃ a, (id, a) ∈ g.roles ∧ a.name = n := by
  unfold roleId? at h
  obtain ⟨e, he, rfl⟩ := Option.map_eq_some_iff.1 h
  have hm := List.mem_of_find?_eq_some he
  have hn := List.find?_some he
  exact ⟨e.2, hm, by simpa using hn⟩

theorem roleId?_eq_none {g : Guild} {n : String} :
    g.roleId? n = none ↔ ∀ e ∈ g.roles, e.2.name ≠ n := by
  unfold roleId?
  simp [List.find?_eq_none]

/-- The names of the roles of a guild, stale ones included, in the order of ids. -/
def names (g : Guild) : List String := g.roles.map fun e => e.2.name

theorem mem_roleNames {g : Guild} {n : String} : n ∈ g.roleNames ↔ n ∈ g.names := by
  simp [roleNames, names]

/-- The role of a name, when no two roles share a name, is found under its id. -/
theorem roleId?_of_mem {g : Guild} {n : String} {id : RoleId} {a : RoleAttributes}
    (hd : g.names.Nodup) (h : (id, a) ∈ g.roles) (hn : a.name = n) : g.roleId? n = some id := by
  cases hr : g.roleId? n with
  | none => exact absurd hn (roleId?_eq_none.1 hr _ h)
  | some id' =>
    obtain ⟨a', h', hn'⟩ := roleId?_eq_some hr
    have := List.inj_on_of_nodup_map hd h' h (hn'.trans hn.symm)
    simp only [Prod.mk.injEq] at this
    rw [this.1]

/-- The facts every reachable guild keeps. -/
structure WellFormed (g : Guild) : Prop where
  roles_keyed : Sorted.Keyed g.roles
  members_keyed : Sorted.Keyed g.members
  seats_exist : ∀ e ∈ g.members, ∀ id ∈ e.2.roles, id ∈ g.roles.map Prod.fst

theorem WellFormed.get?_role {g : Guild} (hg : g.WellFormed) {id : RoleId} {a : RoleAttributes} :
    Sorted.get? id g.roles = some a ↔ (id, a) ∈ g.roles :=
  Sorted.get?_eq_some_iff hg.roles_keyed

/-- The names a member holds are the names of the roles under the ids of their seat. -/
theorem mem_view_roleNames {g : Guild} (hg : g.WellFormed) {u : UserId} {s : Seat} {n : String} :
    n ∈ (g.view u s).roleNames ↔ ∃ id ∈ s.roles, ∃ a, (id, a) ∈ g.roles ∧ a.name = n := by
  simp only [view, Sorted.mem_ofList, List.mem_filterMap, Option.map_eq_some_iff]
  constructor
  · rintro ⟨id, hid, a, ha, rfl⟩
    exact ⟨id, hid, a, hg.get?_role.1 ha, rfl⟩
  · rintro ⟨id, hid, a, ha, rfl⟩
    exact ⟨id, hid, a, hg.get?_role.2 ha, rfl⟩

/-! ### New role ids -/

/-- The candidate ids after `next`: the texts of `next + 1`, `next + 2`, …. -/
private def candidate (next : Nat) : RoleId := ⟨toString (next + 1)⟩

private theorem candidate_inj {m n : Nat} (h : candidate m = candidate n) : m = n := by
  simp only [candidate, RoleId.mk.injEq] at h
  have := Nat.repr_injective h
  omega

/-- `freeId` returns a free id, unless every candidate it tried was taken. -/
private theorem freeId_spec (g : Guild) (fuel next : Nat) :
    (g.freeId fuel next).2 = candidate (g.freeId fuel next).1.pred ∧
      (g.hasRole (g.freeId fuel next).2 = false ∨ ∀ i ≤ fuel, g.hasRole (candidate (next + i)) = true) := by
  induction fuel generalizing next with
  | zero =>
    refine ⟨rfl, ?_⟩
    cases h : g.hasRole (candidate next)
    · exact Or.inl h
    · exact Or.inr fun i hi => by rwa [Nat.le_zero.1 hi]
  | succ fuel ih =>
    simp only [freeId]
    split
    · rename_i htaken
      obtain ⟨hid, hfree⟩ := ih (next + 1)
      refine ⟨hid, hfree.imp_right fun hall i hi => ?_⟩
      cases i with
      | zero => exact htaken
      | succ i => simpa [Nat.add_assoc, Nat.add_comm 1] using hall i (by omega)
    · exact ⟨rfl, Or.inl (Bool.eq_false_iff.2 ‹_›)⟩

/-- The id a new role gets is not the id of any role: of the `roles.length + 1` candidates
`allocateId` tries, the roles can take at most `roles.length`. -/
theorem allocateId_fresh (g : Guild) : g.hasRole g.allocateId.2 = false := by
  obtain ⟨-, hfree⟩ := freeId_spec g g.roles.length g.nextRoleId
  refine hfree.resolve_right fun hall => ?_
  let taken := (List.range (g.roles.length + 1)).map fun i => candidate (g.nextRoleId + i)
  have hnodup : taken.Nodup := by
    refine List.Nodup.map (fun i j h => ?_) List.nodup_range
    have := candidate_inj h
    omega
  have hsub : taken ⊆ g.roles.map Prod.fst := by
    intro id hid
    obtain ⟨i, hi, rfl⟩ := List.mem_map.1 hid
    exact hasRole_iff.1 (hall i (by simpa [Nat.lt_succ_iff] using hi))
  have hle := (List.subperm_of_subset hnodup hsub).length_le
  simp only [taken, List.length_map, List.length_range] at hle
  omega

/-! ### Changes the guild accepts -/

theorem createRole_eq_ok {g g' : Guild} {n : String} (h : g.createRole n = .ok g') :
    Sorted.get? n g.faults.create = none ∧ g.roleId? n = none ∧
      g' = { g with nextRoleId := g.allocateId.1,
                    roles := Sorted.put g.allocateId.2 (RoleAttributes.named n) g.roles,
                    mutations := g.mutations ++ [.createRole n] } := by
  unfold createRole at h
  split at h
  · cases h
  · rename_i hf
    split at h
    · cases h
    · rename_i hr
      exact ⟨hf, hr, (Except.ok.inj h).symm⟩

theorem deleteRole_eq_ok {g g' : Guild} {n : String} (h : g.deleteRole n = .ok g') :
    Sorted.get? n g.faults.delete = none ∧ ∃ id, g.roleId? n = some id ∧
      g' = { g with roles := Sorted.remove id g.roles,
                    members := g.members.map fun e => (e.1, { e.2 with roles := Sorted.erase id e.2.roles }),
                    stale := Sorted.erase n g.stale,
                    mutations := g.mutations ++ [.deleteRole n] } := by
  unfold deleteRole at h
  split at h
  · cases h
  · rename_i hf
    split at h
    · cases h
    · rename_i id hr
      exact ⟨hf, id, hr, (Except.ok.inj h).symm⟩

theorem editRole_eq_ok {g g' : Guild} {a : RoleAttributes} (h : g.editRole a = .ok g') :
    Sorted.get? a.name g.faults.edit = none ∧ ∃ id, g.roleId? a.name = some id ∧
      g' = { g with roles := Sorted.put id a g.roles, mutations := g.mutations ++ [.editRole a.name] } := by
  unfold editRole at h
  split at h
  · cases h
  · rename_i hf
    split at h
    · cases h
    · rename_i id hr
      exact ⟨hf, id, hr, (Except.ok.inj h).symm⟩

theorem setMemberRoles_eq_ok {g g' : Guild} {u : UserId} {ids : List RoleId}
    (h : g.setMemberRoles u ids = .ok g') :
    Sorted.get? u g.faults.memberUpdate = none ∧ (∀ id ∈ ids, id ∈ g.roles.map Prod.fst) ∧
      ∃ s, Sorted.get? u g.members = some s ∧
        g' = { g with members := Sorted.put u { s with roles := Sorted.ofList ids } g.members,
                      mutations := g.mutations ++ [.setMemberRoles u ids] } := by
  unfold setMemberRoles at h
  split at h
  · cases h
  · rename_i hf
    split at h
    · cases h
    · rename_i hfind
      split at h
      · cases h
      · rename_i s hs
        refine ⟨hf, fun id hid => ?_, s, hs, (Except.ok.inj h).symm⟩
        rw [List.find?_eq_none] at hfind
        simpa [hasRole_iff] using hfind id hid

/-- `g` becomes `g'` by accepting the mutation `m`: the guild's own operation for it succeeds.
An edit is logged by the name of the role, so the attributes it wrote are left open. -/
def Accepts (g : Guild) : Mutation → Guild → Prop
  | .createRole n, g' => g.createRole n = .ok g'
  | .deleteRole n, g' => g.deleteRole n = .ok g'
  | .editRole n, g' => ∃ a : RoleAttributes, a.name = n ∧ g.editRole a = .ok g'
  | .setMemberRoles u ids, g' => g.setMemberRoles u ids = .ok g'

theorem Accepts.mutations {g g' : Guild} {m : Mutation} (h : g.Accepts m g') :
    g'.mutations = g.mutations ++ [m] := by
  cases m with
  | createRole n => obtain ⟨-, -, rfl⟩ := createRole_eq_ok h; rfl
  | deleteRole n => obtain ⟨-, _, -, rfl⟩ := deleteRole_eq_ok h; rfl
  | editRole n =>
    obtain ⟨a, rfl, h⟩ := h
    obtain ⟨-, _, -, rfl⟩ := editRole_eq_ok h
    rfl
  | setMemberRoles u ids => obtain ⟨-, -, _, -, rfl⟩ := setMemberRoles_eq_ok h; rfl

/-! ### Well-formed guilds -/

section WellFormed

variable {g g' : Guild}

/-- Only the roles and the members decide whether a guild is well formed. -/
private theorem WellFormed.of_eq (hg : g.WellFormed) (hr : g'.roles = g.roles)
    (hm : g'.members = g.members) : g'.WellFormed := by
  obtain ⟨h₁, h₂, h₃⟩ := hg
  exact ⟨hr ▸ h₁, hm ▸ h₂, by rw [hr, hm]; exact h₃⟩

/-- Seats keep their roles when the role table only gains ids. -/
private theorem WellFormed.of_roles (hg : g.WellFormed) (hk : Sorted.Keyed g'.roles)
    (hm : g'.members = g.members) (hsup : ∀ id ∈ g.roles.map Prod.fst, id ∈ g'.roles.map Prod.fst) :
    g'.WellFormed :=
  ⟨hk, hm ▸ hg.members_keyed, fun e he id hid => hsup id (hg.seats_exist e (hm ▸ he) id hid)⟩

/-- Putting a seat whose roles exist keeps a guild well formed. -/
private theorem WellFormed.of_seat (hg : g.WellFormed) {u : UserId} {s : Seat}
    (hr : g'.roles = g.roles) (hm : g'.members = Sorted.put u s g.members)
    (hs : ∀ id ∈ s.roles, id ∈ g.roles.map Prod.fst) : g'.WellFormed := by
  refine ⟨hr ▸ hg.roles_keyed, hm ▸ Sorted.keyed_put u s hg.members_keyed, fun e he id hid => ?_⟩
  rw [hr]
  rw [hm] at he
  rcases (Sorted.mem_put hg.members_keyed).1 he with rfl | ⟨he, -⟩
  · exact hs id hid
  · exact hg.seats_exist e he id hid

theorem WellFormed.createRole (hg : g.WellFormed) {n : String} (h : g.createRole n = .ok g') :
    g'.WellFormed := by
  obtain ⟨-, -, rfl⟩ := createRole_eq_ok h
  exact hg.of_roles (Sorted.keyed_put _ _ hg.roles_keyed) rfl
    fun id hid => Sorted.mem_keys_put_iff.2 (Or.inr hid)

theorem WellFormed.deleteRole (hg : g.WellFormed) {n : String} (h : g.deleteRole n = .ok g') :
    g'.WellFormed := by
  obtain ⟨-, id, -, rfl⟩ := deleteRole_eq_ok h
  refine ⟨hg.roles_keyed.remove id, ?_, fun e he id' hid' => ?_⟩
  · simpa [Sorted.Keyed, List.map_map, Function.comp_def] using hg.members_keyed
  · obtain ⟨e₀, he₀, rfl⟩ := List.mem_map.1 he
    obtain ⟨hid', hne⟩ := Sorted.mem_erase.1 hid'
    obtain ⟨r, hr, hrid⟩ := List.mem_map.1 (hg.seats_exist e₀ he₀ id' hid')
    exact List.mem_map.2 ⟨r, Sorted.mem_remove.2 ⟨hr, hrid ▸ hne⟩, hrid⟩

theorem WellFormed.editRole (hg : g.WellFormed) {a : RoleAttributes} (h : g.editRole a = .ok g') :
    g'.WellFormed := by
  obtain ⟨-, id, -, rfl⟩ := editRole_eq_ok h
  exact hg.of_roles (Sorted.keyed_put _ _ hg.roles_keyed) rfl
    fun id hid => Sorted.mem_keys_put_iff.2 (Or.inr hid)

theorem WellFormed.setMemberRoles (hg : g.WellFormed) {u : UserId} {ids : List RoleId}
    (h : g.setMemberRoles u ids = .ok g') : g'.WellFormed := by
  obtain ⟨-, hids, s, -, rfl⟩ := setMemberRoles_eq_ok h
  exact hg.of_seat rfl rfl fun id hid => hids id (Sorted.mem_ofList.1 hid)

theorem WellFormed.countPageRequest (hg : g.WellFormed) : g.countPageRequest.WellFormed :=
  hg.of_eq rfl rfl

theorem WellFormed.accepts (hg : g.WellFormed) {m : Mutation} (h : g.Accepts m g') : g'.WellFormed := by
  cases m with
  | createRole n => exact hg.createRole h
  | deleteRole n => exact hg.deleteRole h
  | editRole n =>
    obtain ⟨a, -, h⟩ := h
    exact hg.editRole h
  | setMemberRoles u ids => exact hg.setMemberRoles h

end WellFormed

/-- The states a guild reaches from the empty guild, through its administrative operations and
the calls its clients make; a refused call changes nothing, so only accepted ones are steps.
A member page request is counted whether or not it is answered. -/
inductive Reachable : Guild → Prop
  | empty : Reachable Guild.empty
  | addMember {g : Guild} (u : UserId) (username : String) : Reachable g → Reachable (g.addMember u username)
  | createRoleWithId {g : Guild} (name : String) (id : RoleId) :
      Reachable g → Reachable (g.createRoleWithId name id)
  | assign {g g' : Guild} {u : UserId} {name : String} : Reachable g → g.assign u name = .ok g' → Reachable g'
  | makeStale {g : Guild} (name : String) : Reachable g → Reachable (g.makeStale name)
  | failListRoles {g : Guild} (e : GuildError) : Reachable g → Reachable (g.failListRoles e)
  | failListMembers {g : Guild} (e : GuildError) : Reachable g → Reachable (g.failListMembers e)
  | failCreate {g : Guild} (name : String) (e : GuildError) : Reachable g → Reachable (g.failCreate name e)
  | failDelete {g : Guild} (name : String) (e : GuildError) : Reachable g → Reachable (g.failDelete name e)
  | failEdit {g : Guild} (name : String) (e : GuildError) : Reachable g → Reachable (g.failEdit name e)
  | failMemberUpdate {g : Guild} (u : UserId) (e : GuildError) :
      Reachable g → Reachable (g.failMemberUpdate u e)
  | heal {g : Guild} : Reachable g → Reachable g.heal
  | delayEdits {g : Guild} (d : Duration) : Reachable g → Reachable (g.delayEdits d)
  | clearMutations {g : Guild} : Reachable g → Reachable g.clearMutations
  | countPageRequest {g : Guild} : Reachable g → Reachable g.countPageRequest
  | accept {g g' : Guild} {m : Mutation} : Reachable g → g.Accepts m g' → Reachable g'

theorem Reachable.wellFormed {g : Guild} (h : g.Reachable) : g.WellFormed := by
  induction h with
  | empty => exact ⟨List.pairwise_singleton _ _, Sorted.keyed_nil, by simp [Guild.empty]⟩
  | addMember u username _ ih => exact ih.of_seat rfl rfl (by simp)
  | createRoleWithId name id _ ih =>
    exact ih.of_roles (Sorted.keyed_put _ _ ih.roles_keyed) rfl
      fun id hid => Sorted.mem_keys_put_iff.2 (Or.inr hid)
  | @assign g g' u name _ h ih =>
    unfold Guild.assign at h
    split at h
    · cases h
    · rename_i id hid
      split at h
      · cases h
      · rename_i s _
        cases h
        obtain ⟨a, ha, -⟩ := roleId?_eq_some hid
        refine ih.of_seat rfl rfl fun id' hid' => ?_
        rcases (Sorted.mem_insert id id' s.roles).1 hid' with rfl | hid'
        · exact List.mem_map_of_mem ha
        · exact ih.seats_exist (u, s) (Sorted.mem_of_get? ‹_›) id' hid'
  | makeStale _ _ ih => exact ih.of_eq rfl rfl
  | failListRoles _ _ ih => exact ih.of_eq rfl rfl
  | failListMembers _ _ ih => exact ih.of_eq rfl rfl
  | failCreate _ _ _ ih => exact ih.of_eq rfl rfl
  | failDelete _ _ _ ih => exact ih.of_eq rfl rfl
  | failEdit _ _ _ ih => exact ih.of_eq rfl rfl
  | failMemberUpdate _ _ _ ih => exact ih.of_eq rfl rfl
  | heal _ ih => exact ih.of_eq rfl rfl
  | delayEdits _ _ ih => exact ih.of_eq rfl rfl
  | clearMutations _ ih => exact ih.of_eq rfl rfl
  | countPageRequest _ ih => exact ih.countPageRequest
  | accept _ h ih => exact ih.accepts h

/-! ### Traces -/

/-- A change a guild accepted, with the guild before and after it. -/
structure Change where
  before : Guild
  mutation : Mutation
  after : Guild

/-- The guild goes from `g` to `g'` through the accepted changes `cs`, in order, and between them
only counts member page requests. -/
inductive Trace : Guild → List Change → Guild → Prop
  | done (g : Guild) : Trace g [] g
  | count {g g' : Guild} {cs : List Change} : Trace g.countPageRequest cs g' → Trace g cs g'
  | accept {c : Change} {cs : List Change} {g' : Guild} :
      c.before.Accepts c.mutation c.after → Trace c.after cs g' → Trace c.before (c :: cs) g'

namespace Trace

variable {g g₁ g' : Guild} {cs cs' : List Change}

theorem single {m : Mutation} (h : g.Accepts m g') : Trace g [⟨g, m, g'⟩] g' :=
  .accept (c := ⟨g, m, g'⟩) h (.done g')

theorem append (h : Trace g cs g₁) (h' : Trace g₁ cs' g') : Trace g (cs ++ cs') g' := by
  induction h with
  | done => exact h'
  | count _ ih => exact .count (ih h')
  | accept hc _ ih => exact .accept hc (ih h')

/-- Counted page requests alone are a trace without changes. -/
theorem counted (g : Guild) (k : Nat) :
    Trace g [] { g with memberPageRequests := g.memberPageRequests + k } := by
  induction k generalizing g with
  | zero => exact .done g
  | succ k ih =>
    refine .count ?_
    have := ih g.countPageRequest
    simp only [countPageRequest, Nat.add_right_comm _ 1 k] at this
    exact this

/-- A trace appends its changes' mutations to the log, in order. -/
theorem mutations (h : Trace g cs g') : g'.mutations = g.mutations ++ cs.map Change.mutation := by
  induction h with
  | done => simp
  | count _ ih => exact ih
  | accept hc _ ih => rw [ih, hc.mutations]; simp

/-- A property of guilds that page counts and accepted changes keep holds all along a trace. -/
theorem holds (P : Guild → Prop) (hcount : ∀ g, P g → P g.countPageRequest)
    (haccept : ∀ g m g', g.Accepts m g' → P g → P g') (h : Trace g cs g') (hg : P g) :
    P g' ∧ ∀ c ∈ cs, P c.before ∧ P c.after := by
  induction h with
  | done => exact ⟨hg, by simp⟩
  | count _ ih => exact ih (hcount _ hg)
  | accept hc _ ih =>
    have hafter := haccept _ _ _ hc hg
    obtain ⟨h₁, h₂⟩ := ih hafter
    refine ⟨h₁, fun c hc' => ?_⟩
    rcases List.mem_cons.1 hc' with rfl | hc'
    · exact ⟨hg, hafter⟩
    · exact h₂ c hc'

/-- The first change of a trace finds the members and roles the trace started with, since only
page counts come before it. -/
theorem head {c : Change} (h : Trace g (c :: cs) g') :
    c.before.members = g.members ∧ c.before.roles = g.roles ∧ Trace c.after cs g' := by
  generalize hl : c :: cs = l at h
  induction h with
  | done => cases hl
  | count _ ih => exact ih hl
  | accept _ ht _ =>
    cases hl
    exact ⟨rfl, rfl, ht⟩

/-- Each change of a trace was accepted by the guild before it. -/
theorem accepts (h : Trace g cs g') : ∀ c ∈ cs, c.before.Accepts c.mutation c.after := by
  induction h with
  | done => simp
  | count _ ih => exact ih
  | accept hc _ ih =>
    intro c hc'
    rcases List.mem_cons.1 hc' with rfl | hc'
    · exact hc
    · exact ih c hc'

/-- Every guild along a trace from a well-formed guild is well formed. -/
theorem wellFormed (h : Trace g cs g') (hg : g.WellFormed) :
    g'.WellFormed ∧ ∀ c ∈ cs, c.before.WellFormed ∧ c.after.WellFormed :=
  h.holds _ (fun _ hg => hg.countPageRequest) (fun _ _ _ h hg => hg.accepts h) hg

end Trace

/-- `g` becomes `g'` through accepted changes that all satisfy `P`. -/
def Evolves (P : Change → Prop) (g g' : Guild) : Prop := ∃ cs, Trace g cs g' ∧ ∀ c ∈ cs, P c

namespace Evolves

variable {P Q : Change → Prop} {g g₁ g' : Guild}

theorem refl (g : Guild) : Evolves P g g := ⟨[], .done g, by simp⟩

theorem trans (h : Evolves P g g₁) (h' : Evolves P g₁ g') : Evolves P g g' := by
  obtain ⟨cs, ht, hc⟩ := h
  obtain ⟨cs', ht', hc'⟩ := h'
  exact ⟨cs ++ cs', ht.append ht', fun c hc'' => (List.mem_append.1 hc'').elim (hc c) (hc' c)⟩

/-- One accepted change that satisfies `P`, and then the rest. -/
theorem cons {m : Mutation} (hm : g.Accepts m g₁) (hP : P ⟨g, m, g₁⟩) (h : Evolves P g₁ g') :
    Evolves P g g' := by
  obtain ⟨cs, ht, hc⟩ := h
  refine ⟨⟨g, m, g₁⟩ :: cs, .accept (c := ⟨g, m, g₁⟩) hm ht, fun c hc' => ?_⟩
  rcases List.mem_cons.1 hc' with rfl | hc'
  · exact hP
  · exact hc c hc'

theorem mono (h : Evolves P g g') (hPQ : ∀ c, P c → Q c) : Evolves Q g g' := by
  obtain ⟨cs, ht, hc⟩ := h
  exact ⟨cs, ht, fun c h => hPQ c (hc c h)⟩

end Evolves

end Guild

end GuildRoles

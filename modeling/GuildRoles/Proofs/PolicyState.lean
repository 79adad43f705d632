import GuildRoles.Sync.Cycle
import GuildRoles.Proofs.SortedSets
import GuildRoles.Proofs.IdOrder
import Mathlib.Tactic.SplitIfs

/-!
# Reachable stores

The store's administrative operations keep every policy well formed (`Policy.WellFormed`): roles
are a map keyed by their short names, and every role names at least one filter and only filters
that exist. `Store.Reachable.wellFormed` proves it for every state reached from the empty store,
by a call that is accepted or, for adding a filter or a role, refused after it has taken the
namespace's entry.

On such a store the synchroniser can resolve every listed role (`WellFormed.resolve_isOk`), and
roles are listed by short name (`WellFormed.listRoles_sorted`). On any store, a role that resolves
has as members exactly the users every filter it names holds (`mem_of_resolve_eq_ok`).
-/

namespace GuildRoles

theorem Except.bind_eq_ok {ε α β : Type} {x : Except ε α} {f : α → Except ε β} {b : β} :
    x >>= f = .ok b ↔ ∃ a, x = .ok a ∧ f a = .ok b := by
  cases x <;> simp [bind, Except.bind]

theorem Except.forM_eq_ok {ε α : Type} {l : List α} {f : α → Except ε PUnit} :
    l.forM f = .ok () ↔ ∀ x ∈ l, f x = .ok () := by
  induction l with
  | nil => simp [pure, Except.pure]
  | cons a l ih =>
    simp only [List.forM_eq_forM] at ih ⊢
    rw [List.forM_cons, Except.bind_eq_ok]
    constructor
    · rintro ⟨⟨⟩, ha, hl⟩
      exact List.forall_mem_cons.2 ⟨ha, ih.1 hl⟩
    · intro h
      exact ⟨(), h a List.mem_cons_self, ih.2 fun x hx => h x (List.mem_cons_of_mem _ hx)⟩

@[simp] theorem Except.mapError_ok {ε ε' α : Type} {f : ε → ε'} {a : α} :
    (Except.ok a : Except ε α).mapError f = .ok a := rfl

@[simp] theorem Except.mapError_error {ε ε' α : Type} {f : ε → ε'} {e : ε} :
    (Except.error e : Except ε α).mapError f = .error (f e) := rfl

theorem Except.mapError_eq_ok {ε ε' α : Type} {x : Except ε α} {f : ε → ε'} {a : α} :
    x.mapError f = .ok a ↔ x = .ok a := by
  cases x <;> simp

namespace Role

/-- A role resolves to the users that every filter it names holds, the lookup finding each of
them. -/
theorem mem_members {r : Role} {lookup : String → Option MemberSet} {M : MemberSet}
    (h : r.members lookup = .ok M) {F : String → MemberSet}
    (hl : ∀ f ∈ r.referencedFilters, ∀ m, lookup f = some m → m = F f) {u : UserId} :
    u ∈ M ↔ ∀ f ∈ r.referencedFilters, u ∈ F f := by
  -- one case per pair of references; each named filter is found with the members `F` gives
  cases ha : r.filterA <;> cases hb : r.filterB <;>
    simp only [members, Membership.resolve, Membership.members, ha, hb] at h <;>
    simp only [referencedFilters, ha, hb, FilterRef.name?, List.filterMap_cons, List.filterMap_nil,
      List.mem_cons, List.not_mem_nil, or_false, forall_eq_or_imp, forall_eq] at hl ⊢
  case wildcard.wildcard => cases h
  case named.named na nb =>
    obtain ⟨ma, hma, h⟩ := Except.bind_eq_ok.1 h
    obtain ⟨mb, hmb, h⟩ := Except.bind_eq_ok.1 h
    cases h
    cases hfa : lookup na <;> cases hfb : lookup nb <;>
      simp only [hfa, hfb, reduceCtorEq, Except.ok.injEq] at hma hmb
    subst hma hmb
    rw [Sorted.mem_inter, hl.1 _ hfa, hl.2 _ hfb]
  -- one named filter: its members are the role's
  all_goals
    split at h
    · rename_i hf
      cases h
      rw [hl _ hf]
    · cases h

/-- A role that names a filter resolves when the lookup finds every filter it names. -/
theorem members_isOk {r : Role} {lookup : String → Option MemberSet}
    (hw : (r.filterA.isWildcard && r.filterB.isWildcard) = false)
    (hl : ∀ f ∈ r.referencedFilters, (lookup f).isSome) : ∃ M, r.members lookup = .ok M := by
  cases ha : r.filterA <;> cases hb : r.filterB <;>
    simp only [ha, hb, FilterRef.isWildcard, Bool.and_self, Bool.true_eq_false] at hw <;>
    simp only [referencedFilters, ha, hb, FilterRef.name?, List.filterMap_cons, List.filterMap_nil,
      List.mem_cons, List.not_mem_nil, or_false, forall_eq_or_imp, forall_eq,
      Option.isSome_iff_exists] at hl <;>
    simp only [members, Membership.resolve, Membership.members, ha, hb]
  case named.named na nb =>
    obtain ⟨⟨ma, hma⟩, ⟨mb, hmb⟩⟩ := hl
    exact ⟨Sorted.inter ma mb, by simp [hma, hmb, bind, Except.bind, pure, Except.pure]⟩
  all_goals
    obtain ⟨m, hm⟩ := hl
    exact ⟨m, by rw [hm]⟩

/-- An administrative change of an attribute never changes the short name. -/
theorem update_shortName {r r' : Role} {k : RoleKey} {v : String} (h : r.update k v = .ok r') :
    r'.shortName = r.shortName := by
  unfold update at h
  split at h
  · cases h
  · cases k
    case name =>
      cases h
      rfl
    -- every other key reads its value and then sets its own field
    all_goals
      obtain ⟨_, -, h⟩ := Except.bind_eq_ok.1 h
      cases h
      rfl

end Role

namespace Policy

/-- What the store's operations keep true of each policy. -/
structure WellFormed (p : Policy) : Prop where
  roles_keyed : Sorted.Keyed p.roles
  role_key : ∀ e ∈ p.roles, e.2.shortName = e.1
  role_named : ∀ e ∈ p.roles, (e.2.filterA.isWildcard && e.2.filterB.isWildcard) = false
  role_filters : ∀ e ∈ p.roles, ∀ f ∈ e.2.referencedFilters, p.hasFilter f = true

theorem checkRole_eq_ok {p : Policy} {r : Role} (h : p.checkRole r = .ok ()) :
    (r.filterA.isWildcard && r.filterB.isWildcard) = false ∧
      ∀ f ∈ r.referencedFilters, p.hasFilter f = true := by
  unfold checkRole at h
  split at h
  · cases h
  · rename_i hw
    refine ⟨by simpa using hw, fun f hf => ?_⟩
    have := Except.forM_eq_ok.1 h f hf
    unfold ensureFilter at this
    split at this
    · assumption
    · cases this

theorem wellFormed_empty : ({} : Policy).WellFormed :=
  ⟨Sorted.keyed_nil, by simp, by simp, by simp⟩

variable {p : Policy}

/-- A policy stays well formed when its filters only gain names and its roles stay. -/
theorem WellFormed.of_filters (hp : p.WellFormed) {p' : Policy} (hr : p'.roles = p.roles)
    (hf : ∀ f, p.hasFilter f = true → p'.hasFilter f = true) : p'.WellFormed :=
  ⟨hr ▸ hp.roles_keyed, hr ▸ hp.role_key, hr ▸ hp.role_named,
    fun e he f hfe => hf f (hp.role_filters e (hr ▸ he) f hfe)⟩

/-- Putting a role that passes `checkRole` under its short name keeps a policy well formed. -/
theorem WellFormed.put_role (hp : p.WellFormed) {r : Role} (hc : p.checkRole r = .ok ()) :
    ({ p with roles := Sorted.put r.shortName r p.roles } : Policy).WellFormed := by
  obtain ⟨hw, hfs⟩ := checkRole_eq_ok hc
  refine ⟨Sorted.keyed_put _ _ hp.roles_keyed, ?_, ?_, ?_⟩
  all_goals
    intro e he
    rcases (Sorted.mem_put hp.roles_keyed).1 he with rfl | ⟨he, -⟩
  · rfl
  · exact hp.role_key e he
  · exact hw
  · exact hp.role_named e he
  · exact hfs
  · exact hp.role_filters e he

end Policy

namespace Store

/-- What every reachable store keeps: its policies are a map keyed by namespace, each well
formed. -/
structure WellFormed (s : Store) : Prop where
  keyed : Sorted.Keyed s.namespaces
  policies : ∀ e ∈ s.namespaces, e.2.WellFormed

variable {s s' : Store} {ns : Namespace}

theorem WellFormed.policy? (hs : s.WellFormed) {p : Policy} (h : s.policy? ns = some p) :
    p.WellFormed :=
  hs.policies (ns, p) (Sorted.mem_of_get? h)

theorem WellFormed.policyD (hs : s.WellFormed) : ((s.policy? ns).getD {}).WellFormed := by
  cases h : s.policy? ns with
  | none => exact Policy.wellFormed_empty
  | some p => exact hs.policy? h

theorem WellFormed.setPolicy (hs : s.WellFormed) {p : Policy} (hp : p.WellFormed) :
    (s.setPolicy ns p).WellFormed := by
  refine ⟨Sorted.keyed_put _ _ hs.keyed, fun e he => ?_⟩
  rcases (Sorted.mem_put hs.keyed).1 he with rfl | ⟨he, -⟩
  · exact hp
  · exact hs.policies e he

/-- The entry of a namespace is new only when the store did not have the namespace. -/
theorem withEntry_cases (s : Store) (ns : Namespace) :
    s.withEntry ns = s ∨ s.policy? ns = none ∧ s.withEntry ns = s.setPolicy ns {} := by
  unfold Store.withEntry
  split
  · exact .inl rfl
  · exact .inr ⟨‹_›, rfl⟩

theorem WellFormed.withEntry (hs : s.WellFormed) : (s.withEntry ns).WellFormed := by
  rcases withEntry_cases s ns with he | ⟨-, he⟩ <;> rw [he]
  · exact hs
  · exact hs.setPolicy Policy.wellFormed_empty

/-! ### What adding a filter or a role does

Both take the namespace's entry before the checks that read the policy, so a refusal leaves the
store as it was or with that entry (`addFilter_of_error`, `addRole_of_error`), and a property of
the store either leaves follows from the three stores it can be (`addFilter_store_of`,
`addRole_store_of`). -/

theorem addFilter_of_error {f : Filter} {e : StoreError} (h : s.addFilter ns f = ⟨.error e, s'⟩) :
    s' = s ∨ s' = s.withEntry ns := by
  unfold Store.addFilter at h
  dsimp only at h
  split_ifs at h <;> cases h <;> simp

theorem addFilter_eq_ok {f : Filter} (h : s.addFilter ns f = ⟨.ok (), s'⟩) :
    f.name ≠ "" ∧ f.description ≠ "" ∧ f.name ≠ wildcardName ∧
      ((s.policy? ns).getD {}).hasFilter f.name = false ∧
      s' = s.setPolicy ns { (s.policy? ns).getD {} with
        members := Sorted.put f.name [] ((s.policy? ns).getD {}).members,
        filters := Sorted.put f.name f ((s.policy? ns).getD {}).filters } := by
  unfold Store.addFilter at h
  dsimp only at h
  split_ifs at h with hn hd hr hf
  all_goals cases h
  refine ⟨fun h => hn (String.isEmpty_iff.2 h), fun h => hd (String.isEmpty_iff.2 h), ?_,
    by simpa using hf, rfl⟩
  simpa [isReservedFilterName] using hr

/-- Whatever `addFilter` answers, the store it leaves has a property that the store it was given,
that store with the namespace's entry, and every store it is accepted with have. -/
theorem addFilter_store_of {P : Store → Prop} {f : Filter} (hs : P s) (he : P (s.withEntry ns))
    (hok : ∀ s', s.addFilter ns f = ⟨.ok (), s'⟩ → P s') : P (s.addFilter ns f).store := by
  rcases h : s.addFilter ns f with ⟨e | ⟨⟩, s'⟩
  · rcases addFilter_of_error h with rfl | rfl
    · exact hs
    · exact he
  · exact hok s' h

theorem WellFormed.addFilter (hs : s.WellFormed) {f : Filter} : (s.addFilter ns f).store.WellFormed := by
  refine addFilter_store_of hs hs.withEntry fun s' h => ?_
  obtain ⟨-, -, -, -, rfl⟩ := addFilter_eq_ok h
  refine hs.setPolicy (hs.policyD.of_filters rfl fun f' hf' => ?_)
  simp only [Policy.hasFilter, Sorted.get?_put_eq] at hf' ⊢
  split <;> simp_all

theorem WellFormed.removeFilter (hs : s.WellFormed) {name : String}
    (h : s.removeFilter ns name = .ok s') : s'.WellFormed := by
  unfold Store.removeFilter at h
  split at h
  · cases h
  rename_i p hp
  simp only [bind, Except.bind] at h
  split at h
  · cases h
  split at h
  · cases h
  split at h
  · cases h
  rename_i hfind
  cases h
  have hwf := hs.policy? hp
  -- no role names the removed filter, so every filter a role names is still there
  refine hs.setPolicy ⟨hwf.roles_keyed, hwf.role_key, hwf.role_named, fun e he f hf => ?_⟩
  have hne : f ≠ name := by
    rintro rfl
    rw [List.find?_eq_none] at hfind
    exact absurd (List.elem_eq_true_of_mem hf) (by simpa using hfind e he)
  simpa [Policy.hasFilter, Sorted.get?_remove, hne] using hwf.role_filters e he f hf

theorem addRole_of_error {r : Role} {e : StoreError} (h : s.addRole ns r = ⟨.error e, s'⟩) :
    s' = s ∨ s' = s.withEntry ns := by
  unfold Store.addRole at h
  dsimp only at h
  split_ifs at h
  · cases h
    exact .inl rfl
  · cases h
    exact .inl rfl
  · cases h
    exact .inr rfl
  -- past the check of the short name, only `checkRole` can refuse
  split at h
  · cases h
    exact .inr rfl
  · cases h

theorem addRole_eq_ok {r : Role} (h : s.addRole ns r = ⟨.ok (), s'⟩) :
    r.shortName ≠ "" ∧ r.name ≠ "" ∧ Sorted.get? r.shortName ((s.policy? ns).getD {}).roles = none ∧
      ((s.policy? ns).getD {}).checkRole r = .ok () ∧
      s' = s.setPolicy ns { (s.policy? ns).getD {} with
        roles := Sorted.put r.shortName r ((s.policy? ns).getD {}).roles } := by
  unfold Store.addRole at h
  dsimp only at h
  split_ifs at h with hs hn hr
  · cases h
  · cases h
  · cases h
  split at h
  · cases h
  rename_i hc
  cases h
  exact ⟨fun h => hs (String.isEmpty_iff.2 h), fun h => hn (String.isEmpty_iff.2 h),
    by simpa using hr, hc, rfl⟩

/-- Whatever `addRole` answers, the store it leaves has a property that the store it was given,
that store with the namespace's entry, and every store it is accepted with have. -/
theorem addRole_store_of {P : Store → Prop} {r : Role} (hs : P s) (he : P (s.withEntry ns))
    (hok : ∀ s', s.addRole ns r = ⟨.ok (), s'⟩ → P s') : P (s.addRole ns r).store := by
  rcases h : s.addRole ns r with ⟨e | ⟨⟩, s'⟩
  · rcases addRole_of_error h with rfl | rfl
    · exact hs
    · exact he
  · exact hok s' h

theorem WellFormed.addRole (hs : s.WellFormed) {r : Role} : (s.addRole ns r).store.WellFormed := by
  refine addRole_store_of hs hs.withEntry fun s' h => ?_
  obtain ⟨-, -, -, hc, rfl⟩ := addRole_eq_ok h
  exact hs.setPolicy (hs.policyD.put_role hc)

theorem WellFormed.updateRole (hs : s.WellFormed) {short : String} {k : RoleKey} {v : String}
    {r' : Role} (h : s.updateRole ns short k v = .ok (r', s')) : s'.WellFormed := by
  unfold Store.updateRole at h
  split at h
  · cases h
  rename_i p hp
  split at h
  · cases h
  rename_i r hr
  split at h
  · cases h
  rename_i hu
  obtain ⟨⟨⟩, hc, h⟩ := Except.bind_eq_ok.1 h
  cases h
  have hwf := hs.policy? hp
  -- the stored role is under its own short name, and an update keeps the short name
  have hshort := (Role.update_shortName hu).trans (hwf.role_key _ (Sorted.mem_of_get? hr))
  have := hwf.put_role hc
  rw [hshort] at this
  exact hs.setPolicy this

theorem WellFormed.removeRole (hs : s.WellFormed) {short : String} (h : s.removeRole ns short = .ok s') :
    s'.WellFormed := by
  unfold Store.removeRole at h
  split at h
  · cases h
  rename_i p hp
  split at h
  · cases h
    have hwf := hs.policy? hp
    refine hs.setPolicy ⟨hwf.roles_keyed.remove _, ?_, ?_, ?_⟩
    all_goals
      intro e he
      have he := (Sorted.mem_remove.1 he).1
    · exact hwf.role_key e he
    · exact hwf.role_named e he
    · exact hwf.role_filters e he
  · cases h

theorem WellFormed.changeMembers (hs : s.WellFormed) {filter : String} {f : MemberSet → MemberSet}
    (h : s.changeMembers ns filter f = .ok s') : s'.WellFormed := by
  unfold Store.changeMembers at h
  split at h
  · cases h
  rename_i p hp
  obtain ⟨⟨⟩, -, h⟩ := Except.bind_eq_ok.1 h
  cases h
  exact hs.setPolicy ((hs.policy? hp).of_filters rfl fun _ h => h)

/-! ### Resolving roles -/

theorem filterExists_of_mem_listRoles (hs : s.WellFormed) {r : Role} (hr : r ∈ s.listRoles ns) :
    (r.filterA.isWildcard && r.filterB.isWildcard) = false ∧
      ∀ f ∈ r.referencedFilters, s.filterExists ns f = true := by
  unfold listRoles at hr
  cases hp : s.policy? ns with
  | none => simp [hp] at hr
  | some p =>
    simp only [hp, Option.map_some, Option.getD_some, List.mem_map] at hr
    obtain ⟨e, he, rfl⟩ := hr
    have hwf := hs.policy? hp
    refine ⟨hwf.role_named e he, fun f hf => ?_⟩
    simpa [filterExists, hp] using hwf.role_filters e he f hf

/-- Listed roles come in the order of their short names. -/
theorem WellFormed.listRoles_sorted (hs : s.WellFormed) :
    (s.listRoles ns).Pairwise fun a b => a.shortName < b.shortName := by
  unfold listRoles
  cases hp : s.policy? ns with
  | none => simp
  | some p =>
    have hwf := hs.policy? hp
    simp only [Option.map_some, Option.getD_some, List.pairwise_map]
    refine (List.pairwise_map.1 hwf.roles_keyed).imp_of_mem fun ha hb h => ?_
    rw [hwf.role_key _ ha, hwf.role_key _ hb]
    exact compareOfLessAndEq_eq_lt.1 h

/-- What the resolution of a role collects: each filter it names that exists, with its
members. -/
private theorem foldlM_found (names : List String) (acc : List (String × MemberSet)) :
    names.foldlM (fun acc name => if s.filterExists ns name = true
        then (.ok (acc ++ [(name, s.filterMembers ns name)]) : Except SyncError _) else .ok acc) acc =
      .ok (acc ++ (names.filter (s.filterExists ns)).map fun f => (f, s.filterMembers ns f)) := by
  induction names generalizing acc with
  | nil => simp [pure, Except.pure]
  | cons f names ih =>
    rw [List.foldlM_cons]
    by_cases hf : s.filterExists ns f = true
    · simp [hf, bind, Except.bind, ih]
    · simp [hf, bind, Except.bind, ih]

private theorem lookup_graph {l : List String} {F : String → MemberSet} {f : String} :
    (l.map fun x => (x, F x)).lookup f = if f ∈ l then some (F f) else none := by
  induction l with
  | nil => simp
  | cons x l ih =>
    rw [List.map_cons, List.lookup_cons, ih]
    by_cases hx : f = x
    · simp [hx]
    · simp [hx, beq_eq_false_iff_ne.2 hx]

/-- The lookup a role is resolved with: the members of each existing filter. -/
theorem resolve_eq {r : Role} :
    Cycle.resolve s ns r = (r.members fun f =>
      if f ∈ r.referencedFilters.filter (s.filterExists ns) then some (s.filterMembers ns f)
      else none).mapError SyncError.ofMembership := by
  unfold Cycle.resolve
  simp only [PolicyView.filterExists, PolicyView.filterMembers, Except.mapError_ok, bind, Except.bind,
    pure, Except.pure]
  rw [foldlM_found]
  simp only [List.nil_append, lookup_graph]

/-- A resolved role's members are the users that every filter it names holds. -/
theorem mem_of_resolve_eq_ok {r : Role} {M : MemberSet} (h : Cycle.resolve s ns r = .ok M)
    {u : UserId} : u ∈ M ↔ ∀ f ∈ r.referencedFilters, u ∈ s.filterMembers ns f := by
  rw [resolve_eq, Except.mapError_eq_ok] at h
  refine Role.mem_members h fun f _ m hm => ?_
  split at hm
  · exact (Option.some.inj hm).symm
  · cases hm

/-- On a well-formed store every listed role resolves. -/
theorem WellFormed.resolve_isOk (hs : s.WellFormed) {r : Role} (hr : r ∈ s.listRoles ns) :
    ∃ M, Cycle.resolve s ns r = .ok M := by
  obtain ⟨hw, hf⟩ := filterExists_of_mem_listRoles hs hr
  obtain ⟨M, hM⟩ := @Role.members_isOk r (fun f =>
    if f ∈ r.referencedFilters.filter (s.filterExists ns) then some (s.filterMembers ns f) else none)
    hw fun f hm => by simp [hm, hf f hm]
  exact ⟨M, by rw [resolve_eq, hM]; rfl⟩

/-- The states a store reaches from the empty store through its administrative operations. Adding
a filter or a role leaves a store whatever it answers, which is a step; the other operations
change nothing when refused, so only their accepted calls are steps. -/
inductive Reachable : Store → Prop
  | empty : Reachable {}
  | addFilter {s : Store} {ns : Namespace} {f : Filter} : Reachable s → Reachable (s.addFilter ns f).store
  | removeFilter {s s' : Store} {ns : Namespace} {name : String} :
      Reachable s → s.removeFilter ns name = .ok s' → Reachable s'
  | addRole {s : Store} {ns : Namespace} {r : Role} : Reachable s → Reachable (s.addRole ns r).store
  | updateRole {s s' : Store} {ns : Namespace} {short : String} {k : RoleKey} {v : String} {r : Role} :
      Reachable s → s.updateRole ns short k v = .ok (r, s') → Reachable s'
  | removeRole {s s' : Store} {ns : Namespace} {short : String} :
      Reachable s → s.removeRole ns short = .ok s' → Reachable s'
  | addMembers {s s' : Store} {ns : Namespace} {filter : String} {ids : List UserId} :
      Reachable s → s.addMembers ns filter ids = .ok s' → Reachable s'
  | removeMembers {s s' : Store} {ns : Namespace} {filter : String} {ids : List UserId} :
      Reachable s → s.removeMembers ns filter ids = .ok s' → Reachable s'
  | clearMembers {s s' : Store} {ns : Namespace} {filter : String} {n : Nat} :
      Reachable s → s.clearMembers ns filter = .ok (n, s') → Reachable s'

theorem Reachable.wellFormed (h : s.Reachable) : s.WellFormed := by
  induction h with
  | empty => exact ⟨Sorted.keyed_nil, by simp⟩
  | addFilter _ ih => exact ih.addFilter
  | removeFilter _ h ih => exact ih.removeFilter h
  | addRole _ ih => exact ih.addRole
  | updateRole _ h ih => exact ih.updateRole h
  | removeRole _ h ih => exact ih.removeRole h
  | addMembers _ h ih => exact ih.changeMembers h
  | removeMembers _ h ih => exact ih.changeMembers h
  | clearMembers _ h ih =>
    obtain ⟨_, hc, h⟩ := Except.bind_eq_ok.1 h
    cases h
    exact ih.changeMembers hc

end Store

end GuildRoles

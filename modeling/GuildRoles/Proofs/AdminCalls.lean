import GuildRoles.Proofs.PolicyState

/-!
# The store's administrative calls

The policy store changes only through its eight administrative calls (`Store.Call`): adding and
removing filters and roles, changing one attribute of a role, and adding, removing and clearing
the members of a filter. A call answers and leaves a store (`Call.run`). When it goes through it
replaces the policy of its own namespace (`Call.run_eq_setPolicy`). When it is refused it leaves
the store as it was, except that adding a filter or a role takes its namespace's entry before the
checks that read the policy, and so may leave an empty policy behind (`Call.run_of_error`); no
reader can tell that entry from a namespace the store does not have (`view_withEntry`).

Main statements:
* `Call.keeps_other_namespaces`: a refused call changes nothing a reader sees (`Store.view`) and
  leaves at most that empty entry, and an accepted one changes nothing a reader sees of another
  namespace.
* `Reachable.valid`: every policy of a reachable store is `Policy.Valid`, and `valid_of_calls`:
  so is every policy of a store that any sequence of calls, accepted or refused, leaves.
-/

namespace GuildRoles

theorem Except.map_eq_ok {ε α β : Type} {x : Except ε α} {f : α → β} {b : β} :
    x.map f = .ok b ↔ ∃ a, x = .ok a ∧ f a = b := by
  cases x <;> simp [Except.map]

namespace Store

/-- An administrative call of the store, with the namespace it is made on and its arguments. -/
inductive Call where
  | addFilter (ns : Namespace) (f : Filter)
  | removeFilter (ns : Namespace) (name : String)
  | addRole (ns : Namespace) (r : Role)
  | updateRole (ns : Namespace) (short : String) (k : RoleKey) (v : String)
  | removeRole (ns : Namespace) (short : String)
  | addMembers (ns : Namespace) (filter : String) (ids : List UserId)
  | removeMembers (ns : Namespace) (filter : String) (ids : List UserId)
  | clearMembers (ns : Namespace) (filter : String)
  deriving Repr

/-- The outcome of an operation that writes only once its checks pass: the store it gives, or the
store it was given with the refusal. -/
def Outcome.ofExcept (s : Store) : Except StoreError Store → Outcome Unit
  | .ok s' => ⟨.ok (), s'⟩
  | .error e => ⟨.error e, s⟩

namespace Call

/-- The namespace a call is made on. -/
def ns : Call → Namespace
  | .addFilter ns _ | .removeFilter ns _ | .addRole ns _ | .updateRole ns _ _ _ | .removeRole ns _
  | .addMembers ns _ _ | .removeMembers ns _ _ | .clearMembers ns _ => ns

/-- Runs a call: whether it was accepted, and the store it leaves. The role that `updateRole`
returns and the count that `clearMembers` returns are left out. -/
def run : Call → Store → Outcome Unit
  | .addFilter ns f, s => s.addFilter ns f
  | .removeFilter ns name, s => .ofExcept s (s.removeFilter ns name)
  | .addRole ns r, s => s.addRole ns r
  | .updateRole ns short k v, s => .ofExcept s ((s.updateRole ns short k v).map Prod.snd)
  | .removeRole ns short, s => .ofExcept s (s.removeRole ns short)
  | .addMembers ns filter ids, s => .ofExcept s (s.addMembers ns filter ids)
  | .removeMembers ns filter ids, s => .ofExcept s (s.removeMembers ns filter ids)
  | .clearMembers ns filter, s => .ofExcept s ((s.clearMembers ns filter).map Prod.snd)

/-- The store a caller holds after a call, accepted or refused. -/
def apply (c : Call) (s : Store) : Store := (c.run s).store

/-- Whether a call takes the entry of its namespace before the checks that read its policy. -/
def takesEntry : Call → Bool
  | .addFilter .. | .addRole .. => true
  | _ => false

end Call

/-- What a reader sees of a namespace: its filters, its roles, the role of each short name, the
members of each filter and whether each filter exists. -/
structure View where
  filters : List Filter
  roles : List Role
  role : String → Except StoreError Role
  filterMembers : String → MemberSet
  filterExists : String → Bool

/-- What a reader sees of a namespace of a store. -/
def view (s : Store) (ns : Namespace) : View :=
  ⟨s.filters ns, s.listRoles ns, s.role ns, s.filterMembers ns, s.filterExists ns⟩

variable {s s' : Store} {ns : Namespace}

/-- What a reader sees of a namespace depends on its policy alone. -/
theorem view_congr (h : s'.policy? ns = s.policy? ns) : s'.view ns = s.view ns := by
  unfold view Store.filters Store.listRoles Store.role Store.filterMembers Store.filterExists
  rw [h]

theorem policy?_setPolicy_ne {p : Policy} {ns' : Namespace} (h : ns' ≠ ns) :
    (s.setPolicy ns p).policy? ns' = s.policy? ns' :=
  Sorted.get?_put_ne h

/-- An empty entry is invisible: a reader sees the same of every namespace with it as without it. -/
theorem view_withEntry (ns' : Namespace) : (s.withEntry ns).view ns' = s.view ns' := by
  rcases withEntry_cases s ns with he | ⟨hn, he⟩ <;> rw [he]
  by_cases h : ns' = ns
  · subst h
    -- a namespace with an empty policy shows as much as a namespace the store does not have
    have hp : (s.setPolicy ns' {}).policy? ns' = some {} := Sorted.get?_put ns' _ _
    unfold view Store.filters Store.listRoles Store.role Store.filterMembers Store.filterExists
    simp [hp, hn, Policy.hasFilter]
  · exact view_congr (policy?_setPolicy_ne h)

/-! ### What an accepted call did -/

theorem removeFilter_eq_ok {name : String} (h : s.removeFilter ns name = .ok s') :
    ∃ p, s.policy? ns = some p ∧ p.hasFilter name = true ∧
      (∀ e ∈ p.roles, name ∉ e.2.referencedFilters) ∧
      s' = s.setPolicy ns { p with filters := Sorted.remove name p.filters,
                                   members := Sorted.remove name p.members } := by
  unfold Store.removeFilter at h
  split at h
  · cases h
  rename_i p hp
  simp only [bind, Except.bind] at h
  split at h
  · cases h
  rename_i hf
  split at h
  · cases h
  split at h
  · cases h
  rename_i hfind
  cases h
  refine ⟨p, hp, ?_, fun e he hn => ?_, rfl⟩
  · unfold Policy.ensureFilter at hf
    split at hf
    · assumption
    · cases hf
  · rw [List.find?_eq_none] at hfind
    exact absurd (List.elem_eq_true_of_mem hn) (by simpa using hfind e he)

theorem updateRole_eq_ok {short : String} {k : RoleKey} {v : String} {r' : Role}
    (h : s.updateRole ns short k v = .ok (r', s')) :
    ∃ p r, s.policy? ns = some p ∧ Sorted.get? short p.roles = some r ∧ r.update k v = .ok r' ∧
      p.checkRole r' = .ok () ∧ s' = s.setPolicy ns { p with roles := Sorted.put short r' p.roles } := by
  unfold Store.updateRole at h
  split at h
  · cases h
  rename_i p hp
  split at h
  · cases h
  rename_i r hr
  split at h
  · cases h
  rename_i r'' hu
  obtain ⟨⟨⟩, hc, h⟩ := Except.bind_eq_ok.1 h
  cases h
  exact ⟨p, r, hp, hr, hu, hc, rfl⟩

theorem removeRole_eq_ok {short : String} (h : s.removeRole ns short = .ok s') :
    ∃ p, s.policy? ns = some p ∧ (Sorted.get? short p.roles).isSome ∧
      s' = s.setPolicy ns { p with roles := Sorted.remove short p.roles } := by
  unfold Store.removeRole at h
  split at h
  · cases h
  rename_i p hp
  split at h
  · cases h
    exact ⟨p, hp, ‹_›, rfl⟩
  · cases h

theorem changeMembers_eq_ok {filter : String} {f : MemberSet → MemberSet}
    (h : s.changeMembers ns filter f = .ok s') :
    ∃ p, s.policy? ns = some p ∧ p.hasFilter filter = true ∧
      s' = s.setPolicy ns { p with members := Sorted.alter filter [] f p.members } := by
  unfold Store.changeMembers at h
  split at h
  · cases h
  rename_i p hp
  obtain ⟨⟨⟩, hf, h⟩ := Except.bind_eq_ok.1 h
  cases h
  refine ⟨p, hp, ?_, rfl⟩
  unfold Policy.ensureFilter at hf
  split at hf
  · assumption
  · cases hf

theorem clearMembers_eq_ok {filter : String} {n : Nat} (h : s.clearMembers ns filter = .ok (n, s')) :
    s.changeMembers ns filter (fun _ => []) = .ok s' := by
  obtain ⟨s₁, hc, h⟩ := Except.bind_eq_ok.1 h
  cases h
  exact hc

theorem Outcome.ofExcept_eq_ok {x : Except StoreError Store} :
    Outcome.ofExcept s x = ⟨.ok (), s'⟩ ↔ x = .ok s' := by
  cases x <;> simp [Outcome.ofExcept]

theorem Outcome.ofExcept_eq_error {x : Except StoreError Store} {e : StoreError}
    (h : Outcome.ofExcept s x = ⟨.error e, s'⟩) : s' = s := by
  cases x <;> simp_all [Outcome.ofExcept]

/-- An accepted call replaces the policy of its namespace and changes nothing else. -/
theorem Call.run_eq_setPolicy {c : Call} (h : c.run s = ⟨.ok (), s'⟩) : ∃ p, s' = s.setPolicy c.ns p := by
  cases c with
  | addFilter ns f => exact ⟨_, (addFilter_eq_ok h).2.2.2.2⟩
  | addRole ns r => exact ⟨_, (addRole_eq_ok h).2.2.2.2⟩
  | removeFilter ns name =>
    obtain ⟨p, -, -, -, rfl⟩ := removeFilter_eq_ok (Outcome.ofExcept_eq_ok.1 h)
    exact ⟨_, rfl⟩
  | updateRole ns short k v =>
    obtain ⟨⟨r', s₁⟩, hu, rfl⟩ := Except.map_eq_ok.1 (Outcome.ofExcept_eq_ok.1 h)
    obtain ⟨p, r, -, -, -, -, rfl⟩ := updateRole_eq_ok hu
    exact ⟨_, rfl⟩
  | removeRole ns short =>
    obtain ⟨p, -, -, rfl⟩ := removeRole_eq_ok (Outcome.ofExcept_eq_ok.1 h)
    exact ⟨_, rfl⟩
  | addMembers ns filter ids =>
    obtain ⟨p, -, -, rfl⟩ := changeMembers_eq_ok (Outcome.ofExcept_eq_ok.1 h)
    exact ⟨_, rfl⟩
  | removeMembers ns filter ids =>
    obtain ⟨p, -, -, rfl⟩ := changeMembers_eq_ok (Outcome.ofExcept_eq_ok.1 h)
    exact ⟨_, rfl⟩
  | clearMembers ns filter =>
    obtain ⟨⟨n, s₁⟩, hc, rfl⟩ := Except.map_eq_ok.1 (Outcome.ofExcept_eq_ok.1 h)
    obtain ⟨p, -, -, rfl⟩ := changeMembers_eq_ok (clearMembers_eq_ok hc)
    exact ⟨_, rfl⟩

/-- A refused call leaves the store it was given, or, when it takes its namespace's entry before
refusing, that store with the entry. -/
theorem Call.run_of_error {c : Call} {e : StoreError} (h : c.run s = ⟨.error e, s'⟩) :
    s' = s ∨ c.takesEntry = true ∧ s' = s.withEntry c.ns := by
  cases c
  case addFilter ns f => exact (addFilter_of_error h).imp_right fun h => ⟨rfl, h⟩
  case addRole ns r => exact (addRole_of_error h).imp_right fun h => ⟨rfl, h⟩
  -- every other call writes only once its checks pass
  all_goals exact .inl (Outcome.ofExcept_eq_error h)

/-- A refused call changes nothing a reader sees of any namespace (its filters, roles, the role of
each short name, the members of each filter, whether each filter exists), and the only trace it
leaves is the empty entry that `addFilter` or `addRole` creates for a namespace the store did not
have. An accepted call changes nothing a reader sees of any namespace but its own. -/
theorem Call.keeps_other_namespaces (s : Store) (c : Call) :
    (∀ e s', c.run s = ⟨.error e, s'⟩ → (∀ ns, s'.view ns = s.view ns) ∧
        (s' = s ∨ c.takesEntry = true ∧ s.policy? c.ns = none ∧ s' = s.setPolicy c.ns {})) ∧
      ∀ s', c.run s = ⟨.ok (), s'⟩ → ∀ ns, ns ≠ c.ns → s'.view ns = s.view ns := by
  refine ⟨fun e s' h => ?_, fun s' h ns hne => ?_⟩
  · rcases Call.run_of_error h with rfl | ⟨ht, rfl⟩
    · exact ⟨fun _ => rfl, .inl rfl⟩
    · refine ⟨fun ns => view_withEntry ns, ?_⟩
      rcases withEntry_cases s c.ns with he | ⟨hn, he⟩
      · exact .inl he
      · exact .inr ⟨ht, hn, he⟩
  · obtain ⟨p, rfl⟩ := Call.run_eq_setPolicy h
    exact view_congr (policy?_setPolicy_ne hne)

/-- Adding to the empty store a role of namespace "corp" that names the filter "members", which
"corp" does not have, is refused; the store is left with an empty policy for "corp", and every
namespace looks as it did. -/
theorem addRole_refused_keeps_views :
    (Call.addRole "corp" { shortName := "a", name := "A", filterA := .named "members", filterB := .wildcard }).run {} =
        ⟨.error (.filterNotFound "members"), { namespaces := [("corp", {})] }⟩ ∧
      ∀ ns, Store.view { namespaces := [("corp", {})] } ns = Store.view {} ns :=
  have h : (Call.addRole "corp" { shortName := "a", name := "A", filterA := .named "members", filterB := .wildcard }).run {} =
      ⟨.error (.filterNotFound "members"), { namespaces := [("corp", {})] }⟩ := rfl
  ⟨h, ((Call.keeps_other_namespaces {} _).1 _ _ h).1⟩

end Store

namespace Sorted

variable {α β : Type} [Ord α] [Std.LawfulEqOrd α] {P : α × β → Prop} {k : α} {es : List (α × β)}

/-- A property of every entry of a map still holds after `put` when the new entry has it. -/
theorem forall_mem_put [Std.TransOrd α] [DecidableEq α] {v : β} (h : Keyed es) (hnew : P (k, v))
    (hold : ∀ e ∈ es, P e) :
    ∀ e ∈ put k v es, P e := by
  intro e he
  rcases (mem_put h).1 he with rfl | ⟨he, -⟩
  · exact hnew
  · exact hold e he

theorem forall_mem_remove (hold : ∀ e ∈ es, P e) : ∀ e ∈ remove k es, P e :=
  fun e he => hold e (mem_remove.1 he).1

theorem mem_keys_remove {k' : α} : k' ∈ (remove k es).map Prod.fst ↔ k' ∈ es.map Prod.fst ∧ k' ≠ k := by
  simp only [List.mem_map, mem_remove]
  constructor
  · rintro ⟨e, ⟨he, hk⟩, rfl⟩
    exact ⟨⟨e, he, rfl⟩, hk⟩
  · rintro ⟨⟨e, he, rfl⟩, hk⟩
    exact ⟨e, ⟨he, hk⟩, rfl⟩

end Sorted

namespace Role

/-- An administrative change of an attribute never empties the display name. -/
theorem update_name_ne {r r' : Role} {k : RoleKey} {v : String} (h : r.update k v = .ok r')
    (hn : r.name ≠ "") : r'.name ≠ "" := by
  unfold update at h
  split at h
  · cases h
  · rename_i hv
    cases k
    case name =>
      cases h
      exact fun h => hv (String.isEmpty_iff.2 h)
    -- every other key leaves the display name alone
    all_goals
      obtain ⟨_, -, h⟩ := Except.bind_eq_ok.1 h
      cases h
      exact hn

end Role

namespace Policy

theorem hasFilter_iff {p : Policy} {f : String} : p.hasFilter f = true ↔ f ∈ p.filters.map Prod.fst := by
  rw [hasFilter, Option.isSome_iff_ne_none, ne_eq, Sorted.get?_eq_none_iff, Decidable.not_not]

/-- What the store's checks keep true of a policy, beyond `WellFormed`: filters and member sets are
maps with one key set; each filter is stored under its own name, which is neither empty nor the
wildcard, and has a description; each role has a short name and a display name; no member set
holds the empty id. -/
structure Valid (p : Policy) : Prop extends WellFormed p where
  filters_keyed : Sorted.Keyed p.filters
  members_keyed : Sorted.Keyed p.members
  same_keys : ∀ k, k ∈ p.filters.map Prod.fst ↔ k ∈ p.members.map Prod.fst
  filter_key : ∀ e ∈ p.filters, e.2.name = e.1
  filter_named : ∀ e ∈ p.filters, e.1 ≠ "" ∧ e.1 ≠ wildcardName
  filter_described : ∀ e ∈ p.filters, e.2.description ≠ ""
  role_short : ∀ e ∈ p.roles, e.1 ≠ ""
  role_display : ∀ e ∈ p.roles, e.2.name ≠ ""
  member_ids : ∀ e ∈ p.members, ∀ u ∈ e.2, u.text ≠ ""

theorem valid_empty : ({} : Policy).Valid :=
  { wellFormed_empty with
    filters_keyed := Sorted.keyed_nil, members_keyed := Sorted.keyed_nil, same_keys := by simp,
    filter_key := by simp, filter_named := by simp, filter_described := by simp,
    role_short := by simp, role_display := by simp, member_ids := by simp }

variable {p : Policy}

/-- Adding a filter with a name that is neither empty nor the wildcard, and a description. -/
theorem Valid.addFilter (hp : p.Valid) {f : Filter} (hn : f.name ≠ "") (hd : f.description ≠ "")
    (hw : f.name ≠ wildcardName) :
    ({ p with members := Sorted.put f.name [] p.members,
              filters := Sorted.put f.name f p.filters } : Policy).Valid where
  toWellFormed := hp.toWellFormed.of_filters rfl fun g hg => by
    rw [hasFilter_iff] at hg ⊢
    exact Sorted.mem_keys_put_iff.2 (.inr hg)
  filters_keyed := Sorted.keyed_put _ _ hp.filters_keyed
  members_keyed := Sorted.keyed_put _ _ hp.members_keyed
  same_keys k := by simp only [Sorted.mem_keys_put_iff, hp.same_keys k]
  filter_key := Sorted.forall_mem_put hp.filters_keyed rfl hp.filter_key
  filter_named := Sorted.forall_mem_put hp.filters_keyed ⟨hn, hw⟩ hp.filter_named
  filter_described := Sorted.forall_mem_put hp.filters_keyed hd hp.filter_described
  role_short := hp.role_short
  role_display := hp.role_display
  member_ids := Sorted.forall_mem_put hp.members_keyed (by simp) hp.member_ids

/-- Removing a filter that no role names. -/
theorem Valid.removeFilter (hp : p.Valid) {n : String} (hr : ∀ e ∈ p.roles, n ∉ e.2.referencedFilters) :
    ({ p with filters := Sorted.remove n p.filters,
              members := Sorted.remove n p.members } : Policy).Valid where
  roles_keyed := hp.roles_keyed
  role_key := hp.role_key
  role_named := hp.role_named
  role_filters e he f hf := by
    have hne : f ≠ n := fun h => hr e he (h ▸ hf)
    rw [hasFilter_iff, Sorted.mem_keys_remove]
    exact ⟨hasFilter_iff.1 (hp.role_filters e he f hf), hne⟩
  filters_keyed := hp.filters_keyed.remove n
  members_keyed := hp.members_keyed.remove n
  same_keys k := by simp only [Sorted.mem_keys_remove, hp.same_keys k]
  filter_key := Sorted.forall_mem_remove hp.filter_key
  filter_named := Sorted.forall_mem_remove hp.filter_named
  filter_described := Sorted.forall_mem_remove hp.filter_described
  role_short := hp.role_short
  role_display := hp.role_display
  member_ids := Sorted.forall_mem_remove hp.member_ids

/-- Putting a role that passes `checkRole`, with a short name and a display name, under its short
name. -/
theorem Valid.putRole (hp : p.Valid) {r : Role} (hc : p.checkRole r = .ok ()) (hs : r.shortName ≠ "")
    (hn : r.name ≠ "") : ({ p with roles := Sorted.put r.shortName r p.roles } : Policy).Valid where
  toWellFormed := hp.toWellFormed.put_role hc
  filters_keyed := hp.filters_keyed
  members_keyed := hp.members_keyed
  same_keys := hp.same_keys
  filter_key := hp.filter_key
  filter_named := hp.filter_named
  filter_described := hp.filter_described
  role_short := Sorted.forall_mem_put hp.roles_keyed hs hp.role_short
  role_display := Sorted.forall_mem_put hp.roles_keyed hn hp.role_display
  member_ids := hp.member_ids

theorem Valid.removeRole (hp : p.Valid) (short : String) :
    ({ p with roles := Sorted.remove short p.roles } : Policy).Valid where
  roles_keyed := hp.roles_keyed.remove short
  role_key := Sorted.forall_mem_remove hp.role_key
  role_named := Sorted.forall_mem_remove hp.role_named
  role_filters := Sorted.forall_mem_remove hp.role_filters
  filters_keyed := hp.filters_keyed
  members_keyed := hp.members_keyed
  same_keys := hp.same_keys
  filter_key := hp.filter_key
  filter_named := hp.filter_named
  filter_described := hp.filter_described
  role_short := Sorted.forall_mem_remove hp.role_short
  role_display := Sorted.forall_mem_remove hp.role_display
  member_ids := hp.member_ids

/-- Changing the member set of an existing filter by a change that never adds the empty id. -/
theorem Valid.alterMembers (hp : p.Valid) {n : String} {f : MemberSet → MemberSet}
    (hn : p.hasFilter n = true) (hf : ∀ m : MemberSet, (∀ u ∈ m, u.text ≠ "") → ∀ u ∈ f m, u.text ≠ "") :
    ({ p with members := Sorted.alter n [] f p.members } : Policy).Valid where
  toWellFormed := hp.toWellFormed.of_filters rfl fun _ h => h
  filters_keyed := hp.filters_keyed
  members_keyed := Sorted.keyed_put _ _ hp.members_keyed
  same_keys k := by
    -- the filter has a member set already, so its key is not new
    have hk : n ∈ p.members.map Prod.fst := (hp.same_keys n).1 (hasFilter_iff.1 hn)
    rw [Sorted.alter, Sorted.keys_put_of_mem hp.members_keyed hk]
    exact hp.same_keys k
  filter_key := hp.filter_key
  filter_named := hp.filter_named
  filter_described := hp.filter_described
  role_short := hp.role_short
  role_display := hp.role_display
  member_ids := Sorted.forall_mem_put hp.members_keyed (hf _ fun u hu => by
    cases hm : Sorted.get? n p.members with
    | none => simp [hm] at hu
    | some m =>
      rw [hm, Option.getD_some] at hu
      exact hp.member_ids (n, m) (Sorted.mem_of_get? hm) u hu) hp.member_ids

end Policy

namespace Store

/-- A store keyed by namespace whose every policy is valid. -/
structure Valid (s : Store) : Prop where
  keyed : Sorted.Keyed s.namespaces
  policies : ∀ e ∈ s.namespaces, e.2.Valid

variable {s s' : Store} {ns : Namespace}

theorem Valid.policy? (hs : s.Valid) {p : Policy} (h : s.policy? ns = some p) : p.Valid :=
  hs.policies (ns, p) (Sorted.mem_of_get? h)

theorem Valid.policyD (hs : s.Valid) : ((s.policy? ns).getD {}).Valid := by
  cases h : s.policy? ns with
  | none => exact Policy.valid_empty
  | some p => exact hs.policy? h

theorem Valid.setPolicy (hs : s.Valid) {p : Policy} (hp : p.Valid) : (s.setPolicy ns p).Valid :=
  ⟨Sorted.keyed_put _ _ hs.keyed, Sorted.forall_mem_put hs.keyed hp hs.policies⟩

theorem Valid.withEntry (hs : s.Valid) : (s.withEntry ns).Valid := by
  rcases withEntry_cases s ns with he | ⟨-, he⟩ <;> rw [he]
  · exact hs
  · exact hs.setPolicy Policy.valid_empty

theorem Valid.addFilter (hs : s.Valid) {f : Filter} : (s.addFilter ns f).store.Valid := by
  refine addFilter_store_of hs hs.withEntry fun s' h => ?_
  obtain ⟨hn, hd, hw, -, rfl⟩ := addFilter_eq_ok h
  exact hs.setPolicy (hs.policyD.addFilter hn hd hw)

theorem Valid.removeFilter (hs : s.Valid) {name : String} (h : s.removeFilter ns name = .ok s') :
    s'.Valid := by
  obtain ⟨p, hp, -, hr, rfl⟩ := removeFilter_eq_ok h
  exact hs.setPolicy ((hs.policy? hp).removeFilter hr)

theorem Valid.addRole (hs : s.Valid) {r : Role} : (s.addRole ns r).store.Valid := by
  refine addRole_store_of hs hs.withEntry fun s' h => ?_
  obtain ⟨hsn, hn, -, hc, rfl⟩ := addRole_eq_ok h
  exact hs.setPolicy (hs.policyD.putRole hc hsn hn)

theorem Valid.updateRole (hs : s.Valid) {short : String} {k : RoleKey} {v : String} {r' : Role}
    (h : s.updateRole ns short k v = .ok (r', s')) : s'.Valid := by
  obtain ⟨p, r, hp, hr, hu, hc, rfl⟩ := updateRole_eq_ok h
  have hpv := hs.policy? hp
  have hmem := Sorted.mem_of_get? hr
  -- the stored role is under its own short name, and an update keeps it and a display name
  have hshort : r'.shortName = short := (Role.update_shortName hu).trans (hpv.role_key _ hmem)
  have := hpv.putRole hc (hshort ▸ hpv.role_short _ hmem) (Role.update_name_ne hu (hpv.role_display _ hmem))
  rw [hshort] at this
  exact hs.setPolicy this

theorem Valid.removeRole (hs : s.Valid) {short : String} (h : s.removeRole ns short = .ok s') :
    s'.Valid := by
  obtain ⟨p, hp, -, rfl⟩ := removeRole_eq_ok h
  exact hs.setPolicy ((hs.policy? hp).removeRole short)

theorem Valid.changeMembers (hs : s.Valid) {filter : String} {f : MemberSet → MemberSet}
    (hf : ∀ m : MemberSet, (∀ u ∈ m, u.text ≠ "") → ∀ u ∈ f m, u.text ≠ "")
    (h : s.changeMembers ns filter f = .ok s') : s'.Valid := by
  obtain ⟨p, hp, hn, rfl⟩ := changeMembers_eq_ok h
  exact hs.setPolicy ((hs.policy? hp).alterMembers hn hf)

/-- The store an operation that writes only once its checks pass leaves is reachable when the
store it was given is, and so is every store it is accepted with. -/
theorem ofExcept_reachable {x : Except StoreError Store} (h : s.Reachable)
    (hok : ∀ s', x = .ok s' → s'.Reachable) : (Outcome.ofExcept s x).store.Reachable := by
  cases x with
  | ok s' => exact hok s' rfl
  | error e => exact h

/-- Every policy of a store reached through the administrative operations is valid. -/
theorem Reachable.valid (h : s.Reachable) : s.Valid := by
  induction h with
  | empty => exact ⟨Sorted.keyed_nil, by simp⟩
  | addFilter _ ih => exact ih.addFilter
  | removeFilter _ h ih => exact ih.removeFilter h
  | addRole _ ih => exact ih.addRole
  | updateRole _ h ih => exact ih.updateRole h
  | removeRole _ h ih => exact ih.removeRole h
  | addMembers _ h ih =>
    -- ids that are empty are left out before the union
    refine ih.changeMembers (fun m hm u hu => ?_) h
    rcases Sorted.mem_union.1 hu with hu | hu
    · exact hm u hu
    · have := (List.mem_filter.1 hu).2
      simpa [String.isEmpty_iff] using this
  | removeMembers _ h ih => exact ih.changeMembers (fun m hm u hu => hm u (Sorted.mem_diff.1 hu).1) h
  | clearMembers _ h ih => exact ih.changeMembers (fun _ _ u hu => absurd hu (List.not_mem_nil)) (clearMembers_eq_ok h)

/-- A call keeps a store reachable: adding a filter or a role is a step whatever it answers, and
every other call is a step when accepted and changes nothing when refused. -/
theorem Reachable.apply (h : s.Reachable) (c : Call) : (c.apply s).Reachable := by
  cases c with
  | addFilter => exact .addFilter h
  | addRole => exact .addRole h
  | removeFilter => exact ofExcept_reachable h fun _ hc => .removeFilter h hc
  | updateRole =>
    refine ofExcept_reachable h fun _ hc => ?_
    obtain ⟨⟨r, s₁⟩, hu, rfl⟩ := Except.map_eq_ok.1 hc
    exact .updateRole h hu
  | removeRole => exact ofExcept_reachable h fun _ hc => .removeRole h hc
  | addMembers => exact ofExcept_reachable h fun _ hc => .addMembers h hc
  | removeMembers => exact ofExcept_reachable h fun _ hc => .removeMembers h hc
  | clearMembers =>
    refine ofExcept_reachable h fun _ hc => ?_
    obtain ⟨⟨n, s₁⟩, hcl, rfl⟩ := Except.map_eq_ok.1 hc
    exact .clearMembers h hcl

theorem Reachable.foldl_apply (h : s.Reachable) (calls : List Call) :
    (calls.foldl (fun s (c : Call) => c.apply s) s).Reachable := by
  induction calls generalizing s with
  | nil => exact h
  | cons c calls ih => exact ih (h.apply c)

/-- Whatever administrative calls are made from the empty store, each accepted or refused, every
policy of the store they leave is valid: filters and member sets have one key set; each filter is
stored under its own name, which is neither empty nor the wildcard, and has a description; each
role is stored under its own short name, which is not empty, has a display name, names at least
one filter and names only filters that exist; and no member set holds the empty id. -/
theorem valid_of_calls (calls : List Call) :
    ∀ e ∈ (calls.foldl (fun s (c : Call) => c.apply s) ({} : Store)).namespaces, e.2.Valid :=
  (Reachable.empty.foldl_apply calls).valid.policies

/-- Adding the filter "members" to the namespace "corp" and then the users `1` and the empty id
to it leaves a valid policy holding user `1` alone. -/
theorem valid_of_calls_members :
    ("corp", ({ filters := [("members", ⟨"members", "members filter"⟩)], members := [("members", [⟨"1"⟩])] } : Policy)) ∈
        ([Call.addFilter "corp" ⟨"members", "members filter"⟩, Call.addMembers "corp" "members" [⟨"1"⟩, ⟨""⟩]].foldl
          (fun s (c : Call) => c.apply s) ({} : Store)).namespaces ∧
      Policy.Valid { filters := [("members", ⟨"members", "members filter"⟩)], members := [("members", [⟨"1"⟩])] } :=
  have h : ("corp", ({ filters := [("members", ⟨"members", "members filter"⟩)], members := [("members", [⟨"1"⟩])] } :
      Policy)) ∈ ([Call.addFilter "corp" ⟨"members", "members filter"⟩, Call.addMembers "corp" "members"
        [⟨"1"⟩, ⟨""⟩]].foldl (fun s (c : Call) => c.apply s) ({} : Store)).namespaces :=
    List.mem_singleton_self _
  ⟨h, valid_of_calls _ _ h⟩

end Store

end GuildRoles

import GuildRoles.Proofs.CycleSteps
import GuildRoles.Proofs.Plans

/-!
# The membership phase

What the policy asks of the guild, said without the cycle: a cycle synchronises the listed roles
that have `sync` set and a display name that is not ignored (`SyncConfig.Syncs`); it manages the
guild roles of their display names (`SyncConfig.Manages`); and it wants a user to hold the role
of a name when a synchronised role of that name holds them in every filter it names
(`SyncConfig.Wants`).

The map of wanted names the membership phase builds (`Cycle.policyOf`) is exactly that
(`mem_policyOf`), and on a well-formed store it is always built (`policyOf_isOk`).
`syncMembers_run` says what the phase does to the guild: it counts member page requests, and
then, unless a read failed, it runs the member updates of the plan made from the guild's own
members and role map.
-/

namespace GuildRoles

namespace SyncConfig

variable (c : SyncConfig) (store : Store) (ns : Namespace)

/-- The policy's roles a cycle synchronises: listed, with `sync` set, and with a display name
that is not ignored. -/
def Syncs (r : Role) : Prop := r ∈ store.listRoles ns ∧ r.sync = true ∧ r.name ∉ c.ignoredRoleNames

/-- A cycle manages the guild roles of a name when a synchronised role has it as display name. -/
def Manages (n : String) : Prop := ∃ r, c.Syncs store ns r ∧ r.name = n

/-- The policy wants a user to hold the role of a name when a synchronised role of that name holds
them in every filter it names. -/
def Wants (u : UserId) (n : String) : Prop :=
  ∃ r, c.Syncs store ns r ∧ r.name = n ∧ ∀ f ∈ r.referencedFilters, u ∈ store.filterMembers ns f

variable {c store ns}

@[simp] theorem mem_synced {r : Role} : r ∈ c.synced store ns ↔ c.Syncs store ns r := by
  simp [synced, Syncs]

theorem Wants.manages {u : UserId} {n : String} (h : c.Wants store ns u n) : c.Manages store ns n :=
  let ⟨r, hr, hn, _⟩ := h
  ⟨r, hr, hn⟩

theorem Manages.not_ignored {n : String} (h : c.Manages store ns n) : n ∉ c.ignoredRoleNames := by
  obtain ⟨r, ⟨-, -, hr⟩, rfl⟩ := h
  exact hr

end SyncConfig

namespace Session

variable {g : Guild} {M : RoleMap}

/-- The role map of a guild that answers role listings. -/
theorem roles_eq (hf : g.faults.listRoles = none) :
    Session.roles g = .ok (Sorted.mapOfList
      ((g.roles.filter fun e => !Sorted.contains e.2.name g.stale).map fun e => (e.2.name, e.1))) := by
  simp [Session.roles, Guild.listRoles, hf, Except.map, List.map_map, Function.comp_def]

/-- An id the role map gives a name is the id of a listed role of that name. -/
theorem roles_sound (h : Session.roles g = .ok M) {n : String} {id : RoleId}
    (hn : Sorted.get? n M = some id) : ∃ a, (id, a) ∈ g.roles ∧ a.name = n ∧ n ∉ g.stale := by
  unfold Session.roles Guild.listRoles at h
  split at h
  · cases h
  cases h
  have hmem := Sorted.mem_of_get?_mapOfList hn
  simp only [List.map_map, List.mem_map, List.mem_filter, Function.comp_def, Prod.mk.injEq] at hmem
  obtain ⟨e, ⟨he, hs⟩, rfl, rfl⟩ := hmem
  exact ⟨e.2, he, rfl, by simpa using hs⟩

/-- Every listed role's name has an id in the role map. -/
theorem roles_complete (h : Session.roles g = .ok M) {n : String} {id : RoleId} {a : RoleAttributes}
    (he : (id, a) ∈ g.roles) (hn : a.name = n) (hs : n ∉ g.stale) : ∃ id', Sorted.get? n M = some id' := by
  unfold Session.roles Guild.listRoles at h
  split at h
  · cases h
  cases h
  have hlisted : (id, n) ∈ (g.roles.filter fun e => !Sorted.contains e.2.name g.stale).map
      fun e => (e.1, e.2.name) :=
    List.mem_map.2 ⟨(id, a), List.mem_filter.2 ⟨he, by simp [hn, hs]⟩, by simp [hn]⟩
  have hpair : (n, id) ∈ ((g.roles.filter fun e => !Sorted.contains e.2.name g.stale).map
      fun e => (e.1, e.2.name)).map fun e => (e.2, e.1) :=
    List.mem_map.2 ⟨(id, n), hlisted, rfl⟩
  have : n ∈ (Sorted.mapOfList _).map Prod.fst :=
    Sorted.mem_keys_mapOfList.2 (List.mem_map.2 ⟨(n, id), hpair, rfl⟩)
  obtain ⟨⟨n', id'⟩, hmem, rfl⟩ := List.mem_map.1 this
  exact ⟨id', (Sorted.get?_eq_some_iff (Sorted.keyed_mapOfList _)).2 hmem⟩

/-- With no stale role and no name twice, the role map gives each name the id of its role. -/
theorem roles_get? (h : Session.roles g = .ok M) (hd : g.names.Nodup) (hs : g.stale = []) (n : String) :
    Sorted.get? n M = g.roleId? n := by
  cases hn : Sorted.get? n M with
  | some id =>
    obtain ⟨a, he, ha, -⟩ := roles_sound h hn
    exact (Guild.roleId?_of_mem hd he ha).symm
  | none =>
    refine (Guild.roleId?_eq_none.2 fun e he hen => ?_).symm
    obtain ⟨id', hid'⟩ := roles_complete h he hen (by simp [hs])
    rw [hn] at hid'
    cases hid'

/-- The role map is a map: a name appears once. -/
theorem roles_keyed (h : Session.roles g = .ok M) : Sorted.Keyed M := by
  unfold Session.roles Guild.listRoles at h
  split at h
  · cases h
  cases h
  exact Sorted.keyed_mapOfList _

theorem mem_namesExcluding {I : List String} {n : String} :
    n ∈ M.namesExcluding I ↔ n ∈ M.map Prod.fst ∧ n ∉ I := by
  simp [RoleMap.namesExcluding]

end Session

namespace Cycle

variable {store : Store} {ns : Namespace}

/-- The wanted names of one role added for each of its members. -/
private theorem foldl_alter (name : String) (M : List UserId) (acc : List (UserId × List String))
    (hacc : ∀ u v, Sorted.get? u acc = some v → Sorted.Increasing v) :
    (∀ u v, Sorted.get? u (M.foldl (fun acc u => Sorted.alter u [] (Sorted.insert name) acc) acc) = some v →
      Sorted.Increasing v) ∧
    ∀ u n, n ∈ (Sorted.get? u (M.foldl (fun acc u => Sorted.alter u [] (Sorted.insert name) acc) acc)).getD [] ↔
      n ∈ (Sorted.get? u acc).getD [] ∨ (u ∈ M ∧ n = name) := by
  induction M generalizing acc with
  | nil => exact ⟨hacc, by simp⟩
  | cons v M ih =>
    -- the first member gets `name` added to their wanted names; the rest is the same fold
    have hstep : ∀ u w, Sorted.get? u (Sorted.alter v [] (Sorted.insert name) acc) = some w →
        Sorted.Increasing w := by
      intro u w hw
      rw [Sorted.get?_alter] at hw
      split at hw
      · cases hw
        apply Sorted.increasing_insert
        cases hv : Sorted.get? v acc with
        | none => exact Sorted.increasing_nil
        | some w' => exact hacc v w' hv
      · exact hacc u w hw
    obtain ⟨hinc, hmem⟩ := ih _ hstep
    refine ⟨hinc, fun u n => ?_⟩
    rw [List.foldl_cons, hmem, Sorted.get?_alter]
    by_cases hu : u = v
    · subst hu
      simp only [if_true, Option.getD_some, Sorted.mem_insert, List.mem_cons, true_or, true_and]
      tauto
    · simp [hu]

/-- The map of wanted names: a user's names are those of the roles that resolve to include
them, together with the names they started with. -/
theorem policyOf_spec {roles : List Role} {acc policy : List (UserId × List String)}
    (h : policyOf store ns roles acc = .ok policy)
    (hacc : ∀ u v, Sorted.get? u acc = some v → Sorted.Increasing v) :
    (∀ u v, Sorted.get? u policy = some v → Sorted.Increasing v) ∧
    ∀ u n, n ∈ (Sorted.get? u policy).getD [] ↔ n ∈ (Sorted.get? u acc).getD [] ∨
      ∃ r ∈ roles, r.name = n ∧ ∀ f ∈ r.referencedFilters, u ∈ store.filterMembers ns f := by
  induction roles generalizing acc with
  | nil =>
    cases h
    exact ⟨hacc, by simp⟩
  | cons r roles ih =>
    obtain ⟨M, hM, h⟩ := Except.bind_eq_ok.1 h
    obtain ⟨hinc₁, hmem₁⟩ := foldl_alter r.name M acc hacc
    obtain ⟨hinc, hmem⟩ := ih h hinc₁
    refine ⟨hinc, fun u n => ?_⟩
    rw [hmem, hmem₁, Store.mem_of_resolve_eq_ok hM]
    constructor
    · rintro ((h | ⟨hu, rfl⟩) | ⟨r', hr', hn, hf⟩)
      · exact .inl h
      · exact .inr ⟨r, List.mem_cons_self, rfl, hu⟩
      · exact .inr ⟨r', List.mem_cons_of_mem _ hr', hn, hf⟩
    · rintro (h | ⟨r', hr', hn, hf⟩)
      · exact .inl (.inl h)
      rcases List.mem_cons.1 hr' with rfl | hr'
      · exact .inl (.inr ⟨hf, hn.symm⟩)
      · exact .inr ⟨r', hr', hn, hf⟩

/-- The map of wanted names the phase builds gives each user, once each, exactly the names the
policy wants them to hold. -/
theorem mem_policyOf {c : SyncConfig} {policy : List (UserId × List String)}
    (h : policyOf store ns (c.synced store ns) [] = .ok policy) :
    (∀ u v, Sorted.get? u policy = some v → Sorted.Increasing v) ∧
      ∀ u n, n ∈ (Sorted.get? u policy).getD [] ↔ c.Wants store ns u n := by
  obtain ⟨hinc, hmem⟩ := policyOf_spec h (by simp)
  refine ⟨hinc, fun u n => ?_⟩
  rw [hmem]
  simp only [Sorted.get?_nil, Option.getD_none, List.not_mem_nil, false_or, SyncConfig.mem_synced]
  rfl

/-- On a well-formed store the map of wanted names is always built. -/
theorem policyOf_isOk (hs : store.WellFormed) {roles : List Role} (hr : ∀ r ∈ roles, r ∈ store.listRoles ns)
    (acc : List (UserId × List String)) : ∃ policy, policyOf store ns roles acc = .ok policy := by
  induction roles generalizing acc with
  | nil => exact ⟨acc, rfl⟩
  | cons r roles ih =>
    obtain ⟨M, hM⟩ := hs.resolve_isOk (hr r List.mem_cons_self)
    obtain ⟨policy, hp⟩ := ih (fun r' h => hr r' (List.mem_cons_of_mem _ h))
      (M.foldl (fun acc u => Sorted.alter u [] (Sorted.insert r.name) acc) acc)
    exact ⟨policy, by simp only [policyOf, hM, bind, Except.bind, hp]⟩

/-- The snapshot the membership phase plans from: the guild's members, a role map, the names of
the synchronised roles, a map of wanted names, and the no-sync list. -/
def memberSnapshot (c : SyncConfig) (store : Store) (ns : Namespace) (g : Guild) (M : RoleMap)
    (policy : List (UserId × List String)) : MembershipSnapshot :=
  ⟨g.allMembers, M, Sorted.ofList ((c.synced store ns).map Role.name), policy, c.noSyncUsers⟩

/-- What the membership phase does. It counts member page requests, and the guild is otherwise
as it was (`g₀`); if it then reads the role map `M` and builds the map of wanted names, it runs
the updates of the plan of that snapshot on `g₀` and ends without error, with the report the
updates leave. -/
theorem syncMembers_run {c : SyncConfig} {st st' : CycleState} {r : Except SyncError Unit}
    (h : (syncMembers c store ns).run.run st = (r, st')) (hg : st.guild.WellFormed) :
    ∃ g₀, Guild.Trace st.guild [] g₀ ∧ g₀ = { st.guild with memberPageRequests := g₀.memberPageRequests } ∧
      (st'.guild = g₀ ∨ ∃ M policy st₁ st₂, Session.roles g₀ = .ok M ∧
        policyOf store ns (c.synced store ns) [] = .ok policy ∧ st₁.guild = g₀ ∧
        st₁.report = { st.report with
          skippedUsers := st.report.skippedUsers ++
            (MemberPlan.ofSnapshot (memberSnapshot c store ns g₀ M policy)).skipped,
          errors := st.report.errors ++
            ((MemberPlan.ofSnapshot (memberSnapshot c store ns g₀ M policy)).held.foldl
              (fun acc e => Sorted.union acc e.2) []).map fun n => .platformTransient (.roleNotFound n) } ∧
        (updateMembers (MemberPlan.ofSnapshot (memberSnapshot c store ns g₀ M policy)).updates).run.run st₁ =
          (.ok (), st₂) ∧
        r = .ok () ∧ st'.guild = st₂.guild ∧ st'.report = st₂.report) := by
  simp only [syncMembers, run_bind, run_now, run_send, run_get, run_set, run_since, syncEnabledRoles_eq,
    run_lift_ok] at h
  obtain ⟨k, hk, hms⟩ := Session.members_run c.session hg (session_pageSize c).1 (session_pageSize c).2
  generalize c.session.members st.guild = fetch at h hk hms
  obtain ⟨fetched, g₀⟩ := fetch
  simp only at hk hms
  subst hk
  refine ⟨_, Guild.Trace.counted _ k, rfl, ?_⟩
  -- a failed member fetch, role listing or resolution stops the phase on the counted guild
  cases fetched with
  | error e =>
    simp only [run_fatal_error] at h
    cases h
    exact .inl rfl
  | ok ms =>
    cases hms ms rfl
    simp only [run_fatal_ok] at h
    rcases hm : Session.roles { st.guild with memberPageRequests := st.guild.memberPageRequests + k }
      with e | M
    · simp only [hm, run_fatal_error] at h
      cases h
      exact .inl rfl
    simp only [hm, run_fatal_ok] at h
    rcases hp : policyOf store ns (c.synced store ns) [] with e | policy
    · simp only [hp, run_lift_error] at h
      cases h
      exact .inl rfl
    simp only [hp, run_lift_ok, run_record] at h
    split at h
    · rename_i st₂ hu
      cases h
      exact .inr ⟨M, policy, _, st₂, rfl, rfl, rfl, rfl, hu, rfl, rfl, rfl⟩
    · rename_i hu
      cases updateMembers_ok hu

end Cycle

end GuildRoles

import GuildRoles.Proofs.RoleTable
import Mathlib.Data.List.Induction

/-!
# The calls of a guild

A guild changes through its administrative calls, which tests and dry runs use to set it up, and
through the calls of its clients (`Guild.Call`). Running a call (`Call.run`) gives whether the
guild refused it and the guild the caller then holds: a refused call leaves the guild as it was,
but for a member page request, which is counted whether or not it is answered.

Main statements:
* `Reachable.run`: every guild a sequence of calls leaves is reachable, so well formed: every
  role a member holds exists.
* `Call.run_refused` and `Call.run_accepted`: a refused call changes nothing but the page
  counter, and an accepted client change is one the guild accepts, logged once.
* `allocateId_first`: a new role gets the first free id after the counter, one of the first
  `roles.length + 1` tried.
* `editRole_keeps_names`: an edit gives no role another name.
* `uniqueNames_runAll`: names stay distinct unless a role is given a fixed id under a name that
  a role under another id has.
-/

namespace GuildRoles

namespace Sorted

variable {α β : Type} [Ord α] [Std.TransOrd α] [Std.LawfulEqOrd α]

/-- Putting a value under a key a map has keeps what `f` sees of the map, when `f` sees the same
of the new value as of the old one. -/
theorem map_put_of_mem {γ : Type} (f : β → γ) {k : α} {v w : β} {es : List (α × β)} (h : Keyed es)
    (hk : (k, w) ∈ es) (hf : f v = f w) :
    (put k v es).map (fun e => (e.1, f e.2)) = es.map (fun e => (e.1, f e.2)) := by
  induction es with
  | nil => cases hk
  | cons e es ih =>
    obtain ⟨k', w'⟩ := e
    obtain ⟨hlt, hrest⟩ := keyed_cons.1 h
    rcases List.mem_cons.1 hk with he | hk
    · -- the key is the first one, whose value is replaced
      cases he
      simp [put, Std.compare_self, hf]
    · -- the key comes later, past a smaller one
      have hgt : compare k k' = .gt := Std.OrientedCmp.gt_of_lt (hlt (k, w) hk)
      simp only [put, hgt, List.map_cons, ih hrest hk]

end Sorted

namespace Guild

/-- A call to a guild: an administrative one, or one of a client. -/
inductive Call where
  | addMember (u : UserId) (username : String)
  | createRoleWithId (name : String) (id : RoleId)
  | assign (u : UserId) (name : String)
  | makeStale (name : String)
  | failListRoles (e : GuildError)
  | failListMembers (e : GuildError)
  | failCreate (name : String) (e : GuildError)
  | failDelete (name : String) (e : GuildError)
  | failEdit (name : String) (e : GuildError)
  | failMemberUpdate (u : UserId) (e : GuildError)
  | heal
  | delayEdits (d : Duration)
  | clearMutations
  | listRoles
  | listMembersPage (after : Option UserId) (size : Nat)
  | member (u : UserId)
  | createRole (name : String)
  | deleteRole (name : String)
  | editRole (a : RoleAttributes)
  | setMemberRoles (u : UserId) (ids : List RoleId)
  deriving Repr

/-- The verdict on a change and the guild the caller then holds: the changed guild, or the same
one when the change was refused. -/
def settle (r : Except GuildError Guild) (g : Guild) : Except GuildError Unit × Guild :=
  match r with
  | .ok g' => (.ok (), g')
  | .error e => (.error e, g)

@[simp] theorem settle_ok {g g' : Guild} : settle (.ok g') g = (.ok (), g') := rfl

@[simp] theorem settle_error {g : Guild} {e : GuildError} : settle (.error e) g = (.error e, g) := rfl

namespace Call

/-- Runs a call: whether the guild refused it, and the guild after it. What a read answers is
left out. -/
def run : Call → Guild → Except GuildError Unit × Guild
  | .addMember u username, g => (.ok (), g.addMember u username)
  | .createRoleWithId name id, g => (.ok (), g.createRoleWithId name id)
  | .assign u name, g => settle (g.assign u name) g
  | .makeStale name, g => (.ok (), g.makeStale name)
  | .failListRoles e, g => (.ok (), g.failListRoles e)
  | .failListMembers e, g => (.ok (), g.failListMembers e)
  | .failCreate name e, g => (.ok (), g.failCreate name e)
  | .failDelete name e, g => (.ok (), g.failDelete name e)
  | .failEdit name e, g => (.ok (), g.failEdit name e)
  | .failMemberUpdate u e, g => (.ok (), g.failMemberUpdate u e)
  | .heal, g => (.ok (), g.heal)
  | .delayEdits d, g => (.ok (), g.delayEdits d)
  | .clearMutations, g => (.ok (), g.clearMutations)
  | .listRoles, g => (g.listRoles.map fun _ => (), g)
  | .listMembersPage after size, g =>
    ((g.listMembersPage after size).1.map fun _ => (), (g.listMembersPage after size).2)
  | .member u, g => ((g.member u).map fun _ => (), g)
  | .createRole name, g => settle (g.createRole name) g
  | .deleteRole name, g => settle (g.deleteRole name) g
  | .editRole a, g => settle (g.editRole a) g
  | .setMemberRoles u ids, g => settle (g.setMemberRoles u ids) g

/-- The change a client call asks for, as the guild logs it once accepted. -/
def logged : Call → Option Mutation
  | .createRole name => some (.createRole name)
  | .deleteRole name => some (.deleteRole name)
  | .editRole a => some (.editRole a.name)
  | .setMemberRoles u ids => some (.setMemberRoles u ids)
  | _ => none

/-- Whether the call gives a role a fixed id under a name that a role under another id has. -/
def duplicatesName : Call → Guild → Bool
  | .createRoleWithId name id, g => g.roles.any fun e => e.1 != id && e.2.name == name
  | _, _ => false

end Call

/-- The guild that a sequence of calls leaves, starting from a new guild. -/
def runAll (calls : List Call) : Guild := calls.foldl (fun g c => (c.run g).2) Guild.empty

theorem runAll_append_single (calls : List Call) (c : Call) :
    runAll (calls ++ [c]) = (c.run (runAll calls)).2 := by
  simp [runAll]

variable {g g' : Guild}

/-! ### Reachable guilds -/

/-- A property of guilds holds after a change is settled when it holds before and of the changed
guild. -/
theorem settle_of {P : Guild → Prop} (h : P g) {r : Except GuildError Guild}
    (hr : ∀ g', r = .ok g' → P g') : P (settle r g).2 := by
  cases r with
  | ok g' => exact hr g' rfl
  | error e => exact h

theorem assign_eq_ok {u : UserId} {name : String} (h : g.assign u name = .ok g') :
    ∃ id s, g.roleId? name = some id ∧ Sorted.get? u g.members = some s ∧
      g' = { g with members := Sorted.put u { s with roles := Sorted.insert id s.roles } g.members } := by
  unfold assign at h
  split at h
  · cases h
  · rename_i id hid
    split at h
    · cases h
    · rename_i s hs
      exact ⟨id, s, hid, hs, (Except.ok.inj h).symm⟩

/-- Every call leads from a reachable guild to a reachable one. -/
theorem Reachable.run (h : g.Reachable) (c : Call) : (c.run g).2.Reachable := by
  cases c with
  | addMember u username => exact h.addMember u username
  | createRoleWithId name id => exact h.createRoleWithId name id
  | assign u name => exact settle_of h fun g' hg' => h.assign hg'
  | makeStale name => exact h.makeStale name
  | failListRoles e => exact h.failListRoles e
  | failListMembers e => exact h.failListMembers e
  | failCreate name e => exact h.failCreate name e
  | failDelete name e => exact h.failDelete name e
  | failEdit name e => exact h.failEdit name e
  | failMemberUpdate u e => exact h.failMemberUpdate u e
  | heal => exact h.heal
  | delayEdits d => exact h.delayEdits d
  | clearMutations => exact h.clearMutations
  | listRoles => exact h
  | listMembersPage after size => exact h.countPageRequest
  | member u => exact h
  | createRole name => exact settle_of h fun g' hg' => h.accept (m := .createRole name) hg'
  | deleteRole name => exact settle_of h fun g' hg' => h.accept (m := .deleteRole name) hg'
  | editRole a => exact settle_of h fun g' hg' => h.accept (m := .editRole a.name) ⟨a, rfl, hg'⟩
  | setMemberRoles u ids => exact settle_of h fun g' hg' => h.accept (m := .setMemberRoles u ids) hg'

theorem reachable_runAll (calls : List Call) : (runAll calls).Reachable := by
  induction calls using List.reverseRecOn with
  | nil => exact .empty
  | append_singleton calls c ih =>
    rw [runAll_append_single]
    exact ih.run c

/-! ### Refused and accepted calls -/

namespace Call

theorem settle_refused {r : Except GuildError Guild} {e : GuildError} (h : (settle r g).1 = .error e) :
    (settle r g).2 = g := by
  cases r with
  | ok g' => cases h
  | error e' => rfl

theorem settle_accepted {r : Except GuildError Guild} (h : (settle r g).1 = .ok ()) :
    r = .ok (settle r g).2 := by
  cases r with
  | ok g' => rfl
  | error e => cases h

/-- A refused call leaves the guild as it was, but for the count of member page requests. -/
theorem run_refused {c : Call} {e : GuildError} (h : (c.run g).1 = .error e) :
    (c.run g).2 = { g with memberPageRequests := (c.run g).2.memberPageRequests } := by
  -- the administrative calls are never refused
  cases c <;> simp only [run, reduceCtorEq] at h ⊢
  case assign | createRole | deleteRole | editRole | setMemberRoles => rw [settle_refused h]
  -- the reads keep the guild, and a page request is only counted
  all_goals rfl

/-- An accepted client change is a change the guild accepts, so it is logged once. -/
theorem run_accepted {c : Call} {m : Mutation} (hc : c.logged = some m) (h : (c.run g).1 = .ok ()) :
    g.Accepts m (c.run g).2 := by
  cases c <;> simp only [logged, reduceCtorEq, Option.some.injEq] at hc <;> subst hc <;>
    simp only [run] at h ⊢
  case createRole | deleteRole | setMemberRoles => exact settle_accepted h
  case editRole a => exact ⟨a, rfl, settle_accepted h⟩

end Call

/-! ### New role ids -/

/-- `freeId` tries the candidates after `next` in turn and stops at the first free one: it
returns the candidate `k` after `next` once the `k` before it were taken, for a `k` up to its
fuel. -/
theorem freeId_first (g : Guild) (fuel next : Nat) :
    ∃ k ≤ fuel, g.freeId fuel next = (next + k + 1, ⟨toString (next + k + 1)⟩) ∧
      ∀ j < k, g.hasRole ⟨toString (next + j + 1)⟩ = true := by
  induction fuel generalizing next with
  | zero => exact ⟨0, Nat.le_refl _, rfl, fun j hj => absurd hj (Nat.not_lt_zero j)⟩
  | succ fuel ih =>
    simp only [freeId]
    split
    · -- the first candidate is taken: the rest of the search starts one further
      rename_i htaken
      obtain ⟨k, hk, heq, hbefore⟩ := ih (next + 1)
      refine ⟨k + 1, by omega, by rw [heq, show next + 1 + k + 1 = next + (k + 1) + 1 by omega], ?_⟩
      intro j hj
      cases j with
      | zero => exact htaken
      | succ j => simpa [Nat.add_assoc, Nat.add_comm 1 j] using hbefore j (by omega)
    · exact ⟨0, by omega, rfl, fun j hj => absurd hj (Nat.not_lt_zero j)⟩

/-- A new role gets the first id after the counter that no role has, and the counter moves on to
it: the search tries at most `roles.length + 1` ids. -/
theorem allocateId_first (g : Guild) :
    ∃ k ≤ g.roles.length, g.allocateId = (g.nextRoleId + k + 1, ⟨toString (g.nextRoleId + k + 1)⟩) ∧
      (∀ j < k, g.hasRole ⟨toString (g.nextRoleId + j + 1)⟩ = true) ∧ g.hasRole g.allocateId.2 = false := by
  obtain ⟨k, hk, heq, hbefore⟩ := freeId_first g g.roles.length g.nextRoleId
  exact ⟨k, hk, heq, hbefore, allocateId_fresh g⟩

/-! ### Names -/

/-- An edit gives no role another name: every id keeps the name it had. -/
theorem editRole_keeps_names (hg : g.WellFormed) {a : RoleAttributes} (h : g.editRole a = .ok g') :
    g'.roles.map (fun e => (e.1, e.2.name)) = g.roles.map (fun e => (e.1, e.2.name)) := by
  obtain ⟨-, id, hid, rfl⟩ := editRole_eq_ok h
  obtain ⟨a₀, ha₀, hname⟩ := roleId?_eq_some hid
  exact Sorted.map_put_of_mem RoleAttributes.name hg.roles_keyed ha₀ hname.symm

/-- A role given a fixed id keeps names distinct when no role under another id has its name. -/
theorem UniqueNames.createRoleWithId (hg : g.WellFormed) (hu : g.UniqueNames) {name : String}
    {id : RoleId} (hd : ∀ e ∈ g.roles, e.1 ≠ id → e.2.name ≠ name) :
    (g.createRoleWithId name id).UniqueNames := by
  intro e he e' he' hn
  simp only [Guild.createRoleWithId] at he he'
  rw [Sorted.mem_put hg.roles_keyed] at he he'
  rcases he with rfl | ⟨he, hne⟩ <;> rcases he' with rfl | ⟨he', hne'⟩
  · rfl
  · exact absurd hn.symm (hd e' he' hne')
  · exact absurd hn (hd e he hne)
  · exact hu e he e' he' hn

/-- Every call keeps the names of a well-formed guild distinct, unless it gives a role a fixed id
under a name that a role under another id has. -/
theorem UniqueNames.run (hg : g.WellFormed) (hu : g.UniqueNames) {c : Call}
    (hd : c.duplicatesName g = false) : (c.run g).2.UniqueNames := by
  cases c <;> simp only [Call.run]
  case createRoleWithId name id =>
    refine hu.createRoleWithId hg fun e he hne hn => ?_
    simp only [Call.duplicatesName, List.any_eq_false] at hd
    exact hd e he (by simp [hne, hn])
  case assign u name =>
    refine settle_of hu fun g' hr => ?_
    -- an assignment changes a seat, not the roles
    obtain ⟨-, -, -, -, rfl⟩ := assign_eq_ok hr
    exact hu
  case createRole name => exact settle_of hu fun g' hr => hu.createRole hg hr
  case deleteRole name => exact settle_of hu fun g' hr => hu.deleteRole hr
  case editRole a => exact settle_of hu fun g' hr => hu.editRole hg hr
  case setMemberRoles u ids =>
    refine settle_of hu fun g' hr => ?_
    obtain ⟨-, -, s, -, rfl⟩ := setMemberRoles_eq_ok hr
    exact hu
  -- every other call keeps the roles
  all_goals exact hu

/-- Names stay distinct through a sequence of calls none of which gives a role a fixed id under a
name that a role under another id has. -/
theorem uniqueNames_runAll {calls : List Call}
    (hd : ∀ i (hi : i < calls.length), calls[i].duplicatesName (runAll (calls.take i)) = false) :
    (runAll calls).UniqueNames := by
  induction calls using List.reverseRecOn with
  | nil =>
    intro e he e' he' _
    simp only [Guild.runAll, List.foldl_nil, Guild.empty, List.mem_singleton] at he he'
    rw [he, he']
  | append_singleton calls c ih =>
    rw [runAll_append_single]
    -- the calls before the last one are the first ones of the longer sequence
    have hpre : ∀ i (hi : i < calls.length), calls[i].duplicatesName (runAll (calls.take i)) = false := by
      intro i hi
      have := hd i (by simp; omega)
      rwa [List.getElem_append_left hi, List.take_append_of_le_length (Nat.le_of_lt hi)] at this
    have hlast := hd calls.length (by simp)
    rw [List.getElem_concat_length rfl, List.take_left' rfl] at hlast
    exact UniqueNames.run (reachable_runAll calls).wellFormed (ih hpre) hlast

/-- Through any sequence of calls from a new guild, with any arguments: every role a member
holds exists. A refused call leaves the roles, the members and the log as they were, and an
accepted client change appends exactly the change it asked for to the log. A new role gets an id
no role has, the first free one after the counter, found among the first `roles.length + 1`
tried, and never the name of a role the guild has, hidden from listings or not. An edit renames
no role. So names stay distinct, unless a role is given a fixed id under a name that a role under
another id has. -/
theorem calls_keep_guild_invariants (calls : List Call) :
    (∀ e ∈ (runAll calls).members, ∀ id ∈ e.2.roles, id ∈ (runAll calls).roles.map Prod.fst) ∧
    (∀ c : Call,
      (∀ e, (c.run (runAll calls)).1 = .error e →
        (c.run (runAll calls)).2.roles = (runAll calls).roles ∧
        (c.run (runAll calls)).2.members = (runAll calls).members ∧
        (c.run (runAll calls)).2.mutations = (runAll calls).mutations) ∧
      ∀ m, c.logged = some m → (c.run (runAll calls)).1 = .ok () →
        (c.run (runAll calls)).2.mutations = (runAll calls).mutations ++ [m]) ∧
    (∀ n g', (runAll calls).createRole n = .ok g' →
      n ∉ (runAll calls).names ∧ (runAll calls).hasRole (runAll calls).allocateId.2 = false ∧
      g'.roles = Sorted.put (runAll calls).allocateId.2 (RoleAttributes.named n) (runAll calls).roles ∧
      g'.nextRoleId = (runAll calls).allocateId.1 ∧
      ∃ k ≤ (runAll calls).roles.length,
        (runAll calls).allocateId = ((runAll calls).nextRoleId + k + 1,
          ⟨toString ((runAll calls).nextRoleId + k + 1)⟩) ∧
        ∀ j < k, (runAll calls).hasRole ⟨toString ((runAll calls).nextRoleId + j + 1)⟩ = true) ∧
    (∀ a g', (runAll calls).editRole a = .ok g' →
      g'.roles.map (fun e => (e.1, e.2.name)) = (runAll calls).roles.map (fun e => (e.1, e.2.name))) ∧
    ((∀ i (hi : i < calls.length), calls[i].duplicatesName (runAll (calls.take i)) = false) →
      (runAll calls).names.Nodup) := by
  have hg := (reachable_runAll calls).wellFormed
  refine ⟨hg.seats_exist, fun c => ⟨fun e he => ?_, fun m hm hok => (Call.run_accepted hm hok).mutations⟩,
    fun n g' h => ?_, fun a g' h => editRole_keeps_names hg h,
    fun hd => hg.uniqueNames_iff.1 (uniqueNames_runAll hd)⟩
  · have hframe := Call.run_refused he
    refine ⟨?_, ?_, ?_⟩ <;> rw [hframe]
  · -- a creation finds no role of the name, and takes the first free id
    obtain ⟨-, hnone, rfl⟩ := createRole_eq_ok h
    have hn : n ∉ (runAll calls).names := by
      rw [← roleNamed_eq_none_iff, ← Option.map_eq_none_iff (f := Prod.fst)]
      exact hnone
    obtain ⟨k, hk, heq, hbefore, hfree⟩ := allocateId_first (runAll calls)
    exact ⟨hn, hfree, rfl, rfl, k, hk, heq, hbefore⟩

/-- A role named `Pilots` under the fixed id `42`, hidden from listings, and a client asking to
create `Pilots` again and then `Miners`. -/
def stalePilotsCalls : List Call :=
  [.addMember ⟨"1"⟩ "alice", .createRoleWithId "Pilots" ⟨"42"⟩, .makeStale "Pilots",
    .createRole "Pilots", .createRole "Miners", .assign ⟨"1"⟩ "Miners"]

theorem calls_keep_guild_invariants_stalePilots :
    (∀ i (hi : i < stalePilotsCalls.length),
      stalePilotsCalls[i].duplicatesName (runAll (stalePilotsCalls.take i)) = false) ∧
    (runAll stalePilotsCalls).names.Nodup ∧
    (∀ e ∈ (runAll stalePilotsCalls).members, ∀ id ∈ e.2.roles,
      id ∈ (runAll stalePilotsCalls).roles.map Prod.fst) := by
  have hd : ∀ i (hi : i < stalePilotsCalls.length),
      stalePilotsCalls[i].duplicatesName (runAll (stalePilotsCalls.take i)) = false := by decide
  obtain ⟨hseats, -, -, -, hnames⟩ := calls_keep_guild_invariants stalePilotsCalls
  exact ⟨hd, hnames hd, hseats⟩

end Guild

end GuildRoles

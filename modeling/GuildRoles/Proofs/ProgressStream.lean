import GuildRoles.Proofs.CycleReport

/-!
# What a requester hears of a cycle

A cycle sends progress messages as it goes. Whatever the store, the guild and the settings, and
wherever the cycle stops, the messages come in one order (`runCycle_progress`): the start of the
role phase, a notice for each name clash on creation carrying the text of the error the report
notes for it, and then either the fatal message of the role phase, or the end of the role phase,
the start of the membership phase and its fetches, cut short by a fatal message at the first one
that fails, or followed by the member updates and the end of the phase and of the cycle. A fatal
message is sent exactly when the cycle returns an error, and it is all that a requester who did
not ask to be notified hears.

Elapsed times are left out of the comparison (`Progress.untimed`). Each loop and phase of the
cycle has its own lemma for the messages it sends; `runCycle_progress` puts them together.
-/

namespace GuildRoles

namespace Progress

/-- A message with its elapsed time set to zero: what it says, not when. -/
def untimed : Progress → Progress
  | .phaseCompleted p _ => .phaseCompleted p ⟨0⟩
  | .fetched s _ => .fetched s ⟨0⟩
  | .usersUpdated _ => .usersUpdated ⟨0⟩
  | .cycleCompleted _ => .cycleCompleted ⟨0⟩
  | m => m

theorem delivered_true (sent : List Progress) : delivered true sent = sent := by
  simp [delivered]

@[simp] theorem isInformational_untimed (m : Progress) : m.untimed.isInformational = m.isInformational := by
  cases m <;> rfl

theorem untimed_of_not_informational {m : Progress} (h : m.isInformational = false) : m.untimed = m := by
  cases m <;> simp_all [isInformational, untimed]

/-- A requester who did not ask to be notified hears only the fatal messages and results, which
carry no elapsed time: what they hear can be read off the untimed messages. -/
theorem delivered_false (sent : List Progress) :
    delivered false sent = (sent.map untimed).filter fun m => !m.isInformational := by
  have hsame : ∀ m ∈ sent.filter (fun m => !m.isInformational), m.untimed = m := fun m hm =>
    untimed_of_not_informational (by simpa using (List.mem_filter.1 hm).2)
  calc delivered false sent = sent.filter fun m => !m.isInformational := by simp [delivered]
    _ = (sent.filter fun m => !m.isInformational).map untimed := by
      rw [List.map_congr_left hsame, List.map_id']
    _ = (sent.map untimed).filter fun m => !m.isInformational := by
      rw [List.filter_map]
      simp [Function.comp_def]

/-- A silent requester hears only the end of a stream whose beginning is informational. -/
theorem delivered_false_append {sent pre post : List Progress} (h : sent.map untimed = pre ++ post)
    (hpre : ∀ m ∈ pre, m.isInformational = true) :
    delivered false sent = post.filter fun m => !m.isInformational := by
  rw [delivered_false, h, List.filter_append, List.filter_eq_nil_iff.2 fun m hm => by simp [hpre m hm],
    List.nil_append]

end Progress

/-- The snapshots the membership phase fetches, in the order it fetches them. -/
def Snapshot.all : List Snapshot := [.platformMembers, .platformRoles, .policyRoles, .roleMemberships]

namespace Cycle

/-- The error a name clash on creation is noted with. -/
def clashError (n : String) : SyncError := .platformTransient (.roleExists n)

/-- The notice of a name clash: the text of the error it is noted with. -/
def clashNotice (n : String) : Progress := .notice (clashError n).message

/-- The messages of the first `j` fetches of the membership phase, elapsed times left out. -/
def fetchedMessages (j : Nat) : List Progress := (Snapshot.all.take j).map fun s => .fetched s ⟨0⟩

/-! Everything a cycle sends before its fatal message or its last messages is informational, so a
requester who did not ask to be notified hears none of it. -/

@[simp] theorem isInformational_clashNotice (n : String) : (clashNotice n).isInformational = true := rfl

theorem informational_rolePrefix (clashes : List String) :
    ∀ m ∈ .phaseStarted .roleDefinitions :: clashes.map clashNotice, m.isInformational = true := by
  simp only [List.forall_mem_cons, List.forall_mem_map, isInformational_clashNotice]
  exact ⟨rfl, fun _ _ => trivial⟩

theorem informational_fetchedMessages (j : Nat) : ∀ m ∈ fetchedMessages j, m.isInformational = true := by
  intro m hm
  obtain ⟨s, -, rfl⟩ := List.mem_map.1 hm
  rfl

theorem informational_membershipPrefix (clashes : List String) (j : Nat) :
    ∀ m ∈ .phaseStarted .roleDefinitions :: clashes.map clashNotice ++
        [.phaseCompleted .roleDefinitions ⟨0⟩, .phaseStarted .membership] ++ fetchedMessages j,
      m.isInformational = true :=
  List.forall_mem_append.2 ⟨List.forall_mem_append.2
    ⟨informational_rolePrefix clashes, by simp [Progress.isInformational]⟩, informational_fetchedMessages j⟩

section Loops

variable {st st' : CycleState} {r : Except SyncError Unit}

/-- `createRoles` sends a notice for each name clash, and notes each clash as an error, in the
same order. -/
theorem createRoles_notices {L : List String} (h : (createRoles L).run.run st = (r, st')) :
    ∃ clashes : List String, st'.sent = st.sent ++ clashes.map clashNotice ∧
      st'.report.errors = st.report.errors ++ clashes.map clashError ∧
      st'.report.updatedUsers = st.report.updatedUsers := by
  induction L generalizing st with
  | nil =>
    simp only [createRoles, run_pure] at h
    cases h
    exact ⟨[], by simp, by simp, rfl⟩
  | cons n L ih =>
    simp only [createRoles, run_bind, run_get] at h
    split at h
    · simp only [run_bind, run_modify, run_record] at h
      exact (ih h :)
    · -- a name clash: a notice, and the error it carries noted
      simp only [run_bind, run_send, run_record] at h
      obtain ⟨clashes, hs, he, hu⟩ := ih h
      exact ⟨n :: clashes, by rw [hs]; simp [clashNotice, clashError, SyncError.ofGuild],
        by rw [he]; simp [clashError, SyncError.ofGuild], hu⟩
    · simp only [run_bind, run_throw] at h
      cases h
      exact ⟨[], by simp, by simp, rfl⟩

/-- `deleteRoles` sends no message, and notes no error and no member update. -/
theorem deleteRoles_quiet {L : List String} (h : (deleteRoles L).run.run st = (r, st')) :
    st'.sent = st.sent ∧ st'.report.errors = st.report.errors ∧
      st'.report.updatedUsers = st.report.updatedUsers := by
  induction L generalizing st with
  | nil =>
    simp only [deleteRoles, run_pure] at h
    cases h
    exact ⟨rfl, rfl, rfl⟩
  | cons n L ih =>
    simp only [deleteRoles, run_bind, run_onGuild] at h
    rcases hd : st.guild.deleteRole n with e | g'
    · simp only [hd] at h
      cases h
      exact ⟨rfl, rfl, rfl⟩
    · simp only [hd, run_record] at h
      exact (ih h :)

/-- `editRoles` sends no message, and notes no error and no member update. -/
theorem editRoles_quiet {session : Session} {policy : List (String × Role)} {L : List String}
    (h : (editRoles session policy L).run.run st = (r, st')) :
    st'.sent = st.sent ∧ st'.report.errors = st.report.errors ∧
      st'.report.updatedUsers = st.report.updatedUsers := by
  induction L generalizing st with
  | nil =>
    simp only [editRoles, run_pure] at h
    cases h
    exact ⟨rfl, rfl, rfl⟩
  | cons n L ih =>
    simp only [editRoles] at h
    split at h
    · rename_i role _
      obtain ⟨clock, hrun⟩ := run_editRole session role.attributes st
      simp only [run_bind, hrun] at h
      rcases he : session.editRole st.guild role.attributes with e | g'
      · simp only [he] at h
        cases h
        exact ⟨rfl, rfl, rfl⟩
      · simp only [he, run_record] at h
        exact (ih h :)
    · exact ih h

theorem updateMembers_sent {ups : List MemberUpdate} (h : (updateMembers ups).run.run st = (r, st')) :
    st'.sent = st.sent := by
  induction ups generalizing st with
  | nil =>
    simp only [updateMembers, run_pure] at h
    cases h
    rfl
  | cons up ups ih =>
    simp only [updateMembers, run_bind, run_get] at h
    split at h <;> simp only [run_bind, run_modify, run_record] at h <;> exact (ih h :)

/-- `updateMembers` notes every update of its list, as done or as failed. -/
theorem updateMembers_counts {ups : List MemberUpdate} (h : (updateMembers ups).run.run st = (r, st')) :
    st'.report.updatedUsers.length + st'.report.failedUsers.length =
      st.report.updatedUsers.length + st.report.failedUsers.length + ups.length := by
  obtain ⟨-, hrep, -, -⟩ := updateMembers_tally h
  have hsplit := List.length_eq_length_filter_add (l := ups) fun up => (st.guild.memberVerdict up).isOk
  rw [hrep]
  simp only [Report.failedUsers, List.filterMap_append, List.length_append, List.length_map] at hsplit ⊢
  rw [← Report.failedUsers, failedUsers_refusals, List.length_map]
  omega

end Loops

section Phases

variable {σ : Type} [PolicyView σ] {c : SyncConfig} {store : σ} {ns : Namespace}
  {st st' : CycleState} {r : Except SyncError Unit}

/-- The role phase announces itself, sends a notice for each name clash and notes it as an error,
in the same order, and announces its end unless it stopped. -/
theorem syncRoles_stream (h : (syncRoles c store ns).run.run st = (r, st')) :
    ∃ clashes : List String,
      st'.report.errors = st.report.errors ++ clashes.map clashError ∧
      st'.report.updatedUsers = st.report.updatedUsers ∧
      st'.sent.map Progress.untimed = st.sent.map Progress.untimed ++
        (.phaseStarted .roleDefinitions :: clashes.map clashNotice ++
          if r.isOk then [.phaseCompleted .roleDefinitions ⟨0⟩] else []) := by
  simp only [syncRoles, run_bind, run_now, run_send, run_get] at h
  -- the policy's roles and the guild's role list come first
  rcases hp : syncEnabledRoles c store ns with e | roles
  · simp only [hp, run_lift_error] at h
    cases h
    exact ⟨[], by simp, rfl, by simp [Progress.untimed, Except.isOk, Except.toBool]⟩
  simp only [hp, run_lift_ok] at h
  rcases hm : Session.roles st.guild with e | M
  · simp only [hm, run_fatal_error] at h
    cases h
    exact ⟨[], by simp, rfl, by simp [Progress.untimed, Except.isOk, Except.toBool]⟩
  simp only [hm, run_fatal_ok] at h
  -- then the three loops, the first one that fails stopping the phase
  split at h
  · rename_i st₁ h₁
    obtain ⟨clashes, hs₁, he₁, hu₁⟩ := createRoles_notices h₁
    split at h
    · rename_i st₂ h₂
      obtain ⟨hs₂, he₂, hu₂⟩ := deleteRoles_quiet h₂
      split at h
      · rename_i st₃ h₃
        obtain ⟨hs₃, he₃, hu₃⟩ := editRoles_quiet h₃
        simp only [run_since] at h
        cases h
        refine ⟨clashes, by rw [he₃, he₂, he₁], by rw [hu₃, hu₂, hu₁], ?_⟩
        simp [hs₃, hs₂, hs₁, Progress.untimed, clashNotice, Except.isOk, Except.toBool]
      · rename_i st₃ h₃
        obtain ⟨hs₃, he₃, hu₃⟩ := editRoles_quiet h₃
        cases h
        refine ⟨clashes, by rw [he₃, he₂, he₁], by rw [hu₃, hu₂, hu₁], ?_⟩
        simp [hs₃, hs₂, hs₁, Progress.untimed, clashNotice, Except.isOk, Except.toBool]
    · rename_i st₂ h₂
      obtain ⟨hs₂, he₂, hu₂⟩ := deleteRoles_quiet h₂
      cases h
      refine ⟨clashes, by rw [he₂, he₁], by rw [hu₂, hu₁], ?_⟩
      simp [hs₂, hs₁, Progress.untimed, clashNotice, Except.isOk, Except.toBool]
  · rename_i st₁ h₁
    obtain ⟨clashes, hs₁, he₁, hu₁⟩ := createRoles_notices h₁
    cases h
    refine ⟨clashes, he₁, hu₁, ?_⟩
    simp [hs₁, Progress.untimed, clashNotice, Except.isOk, Except.toBool]

/-- The membership phase announces itself and each snapshot it fetched. It stops at the first
fetch that fails, before any of the last three, having noted nothing; or it announces how many
members it updates, notes each of them as updated or as failed, and announces the end of the
updates and of the phase. -/
theorem syncMembers_stream (h : (syncMembers c store ns).run.run st = (r, st')) :
    (∃ e, r = .error e ∧ st'.report = st.report ∧ ∃ j < 4,
      st'.sent.map Progress.untimed = st.sent.map Progress.untimed ++
        .phaseStarted .membership :: fetchedMessages j) ∨
    (r = .ok () ∧ st.report.errors <+: st'.report.errors ∧ ∃ k,
      st'.report.updatedUsers.length + st'.report.failedUsers.length =
        st.report.updatedUsers.length + st.report.failedUsers.length + k ∧
      st'.sent.map Progress.untimed = st.sent.map Progress.untimed ++
        .phaseStarted .membership :: fetchedMessages 4 ++
          [.updatingUsers k, .usersUpdated ⟨0⟩, .phaseCompleted .membership ⟨0⟩]) := by
  simp only [syncMembers, run_bind, run_now, run_send, run_get, run_set, run_since] at h
  -- the four fetches: members, role list, policy roles, their members
  rcases hm : c.session.members st.guild with ⟨_ | members, g'⟩
  · simp only [hm, run_fatal_error] at h
    cases h
    exact .inl ⟨_, rfl, rfl, 0, by omega, by simp [fetchedMessages, Progress.untimed]⟩
  simp only [hm, run_fatal_ok] at h
  rcases hr : Session.roles g' with e | M
  · simp only [hr, run_fatal_error] at h
    cases h
    exact .inl ⟨_, rfl, rfl, 1, by omega, by simp [fetchedMessages, Snapshot.all, Progress.untimed]⟩
  simp only [hr, run_fatal_ok] at h
  rcases hp : syncEnabledRoles c store ns with e | roles
  · simp only [hp, run_lift_error] at h
    cases h
    exact .inl ⟨_, rfl, rfl, 2, by omega, by simp [fetchedMessages, Snapshot.all, Progress.untimed]⟩
  simp only [hp, run_lift_ok] at h
  rcases hq : policyOf store ns roles [] with e | policy
  · simp only [hq, run_lift_error] at h
    cases h
    exact .inl ⟨_, rfl, rfl, 3, by omega, by simp [fetchedMessages, Snapshot.all, Progress.untimed]⟩
  simp only [hq, run_lift_ok, run_record] at h
  generalize MemberPlan.ofSnapshot ⟨members, M, Sorted.ofList (roles.map Role.name), policy,
    c.noSyncUsers⟩ = P at h
  -- the updates, which never stop the phase
  split at h
  · rename_i st₅ h₅
    cases h
    have hs₅ := updateMembers_sent h₅
    have hc₅ := updateMembers_counts h₅
    obtain ⟨-, hrep, -, -⟩ := updateMembers_tally h₅
    refine .inr ⟨rfl, ?_, P.updates.length, ?_, ?_⟩
    · rw [hrep]
      exact (List.prefix_append _ _).trans (List.prefix_append _ _)
    · -- the names held without an id are noted as transient errors, no member's failure
      rw [hc₅]
      have hheld := @failedUsers_transient ((List.foldl (fun acc e => Sorted.union acc e.snd) []
        P.held).map fun n => .platformTransient (.roleNotFound n)) (by simp)
      simp [Report.failedUsers, List.filterMap_append, hheld]
    · simp [hs₅, fetchedMessages, Snapshot.all, Progress.untimed]
  · rename_i e st₅ h₅
    cases updateMembers_ok h₅

end Phases

section Cycles

variable {σ : Type} [PolicyView σ]

/-- The messages a cycle sends, without their elapsed times, for each way it can end; the notices
of the role phase are one per name clash, and carry the text of the errors the report notes
first. -/
theorem runCycle_stream (c : SyncConfig) (store : σ) (ns : Namespace) (g : Guild) :
    ∃ clashes : List String,
      (runCycle c store ns g).report.errors.take clashes.length = clashes.map clashError ∧
      ((∃ e, (runCycle c store ns g).result = .error ⟨.roleDefinitions, e, (runCycle c store ns g).report⟩ ∧
          (runCycle c store ns g).sent.map Progress.untimed =
            .phaseStarted .roleDefinitions :: clashes.map clashNotice ++ [.fatal ("Role Sync: " ++ e.message)]) ∨
        (∃ e, ∃ j < 4, (runCycle c store ns g).result = .error ⟨.membership, e, (runCycle c store ns g).report⟩ ∧
          (runCycle c store ns g).sent.map Progress.untimed =
            .phaseStarted .roleDefinitions :: clashes.map clashNotice ++
              [.phaseCompleted .roleDefinitions ⟨0⟩, .phaseStarted .membership] ++ fetchedMessages j ++
                [.fatal ("Member Sync: " ++ e.message)]) ∨
        (∃ rep, (runCycle c store ns g).result = .ok rep ∧
          (runCycle c store ns g).sent.map Progress.untimed =
            .phaseStarted .roleDefinitions :: clashes.map clashNotice ++
              [.phaseCompleted .roleDefinitions ⟨0⟩, .phaseStarted .membership] ++ fetchedMessages 4 ++
                [.updatingUsers (rep.updatedUsers.length + rep.failedUsers.length), .usersUpdated ⟨0⟩,
                  .phaseCompleted .membership ⟨0⟩, .cycleCompleted ⟨0⟩])) := by
  rcases h₁ : (syncRoles c store ns).run.run { guild := g } with ⟨r₁, st₁⟩
  obtain ⟨clashes, he₁, hu₁, hs₁⟩ := syncRoles_stream h₁
  simp only [List.nil_append, List.map_nil] at he₁ hs₁
  cases r₁ with
  | error e =>
    -- stopped in the role phase
    have hout : runCycle c store ns g =
        ⟨.error ⟨.roleDefinitions, e, st₁.report⟩, st₁.guild,
          st₁.sent ++ [.fatal (Phase.roleDefinitions.text ++ ": " ++ e.message)]⟩ := by
      simp [runCycle, run_eq, h₁]
    refine ⟨clashes, by simp [hout, CycleOutcome.report, he₁, List.take_of_length_le],
      .inl ⟨e, by rw [hout]; rfl, ?_⟩⟩
    rw [hout, List.map_append, hs₁]
    simp [Progress.untimed, Phase.text, Except.isOk, Except.toBool]
  | ok u =>
    cases u
    rcases h₂ : (syncMembers c store ns).run.run st₁ with ⟨r₂, st₂⟩
    rcases syncMembers_stream h₂ with ⟨e, rfl, hrep₂, j, hj, hs₂⟩ | ⟨rfl, hpre, k, hk, hs₂⟩
    · -- stopped in the membership phase, which noted nothing
      have hout : runCycle c store ns g =
          ⟨.error ⟨.membership, e, st₂.report⟩, st₂.guild,
            st₂.sent ++ [.fatal (Phase.membership.text ++ ": " ++ e.message)]⟩ := by
        simp [runCycle, run_eq, h₁, h₂]
      refine ⟨clashes, by simp [hout, CycleOutcome.report, hrep₂, he₁, List.take_of_length_le],
        .inr (.inl ⟨e, j, hj, by rw [hout]; rfl, ?_⟩)⟩
      rw [hout, List.map_append, hs₂, hs₁]
      simp [Progress.untimed, Phase.text, Except.isOk, Except.toBool]
    · -- through: the role phase updated no member, so the count is the report's
      obtain ⟨d, hout⟩ : ∃ d, runCycle c store ns g = ⟨.ok st₂.report, st₂.guild, st₂.sent ++ [.cycleCompleted d]⟩ :=
        ⟨_, by simp [runCycle, run_eq, h₁, h₂]; rfl⟩
      have hk' : k = st₂.report.updatedUsers.length + st₂.report.failedUsers.length := by
        have h₀ : st₁.report.updatedUsers.length + st₁.report.failedUsers.length = 0 := by
          simp [hu₁, Report.failedUsers, he₁, clashError, SyncError.failedUser?]
        omega
      subst hk'
      have htake := List.prefix_iff_eq_take.1 hpre
      rw [he₁, List.length_map] at htake
      refine ⟨clashes, by simpa [hout, CycleOutcome.report] using htake.symm,
        .inr (.inr ⟨st₂.report, by rw [hout], ?_⟩)⟩
      rw [hout, List.map_append, hs₂, hs₁]
      simp [Progress.untimed, Except.isOk, Except.toBool]

/-- The messages of a cycle, in order and without their elapsed times, for a requester who asked to
be notified; and for one who did not, the fatal message of a failed cycle and nothing else. The
notices of the role phase are one per name clash, and carry the text of the errors the report
notes first. -/
theorem runCycle_progress (c : SyncConfig) (store : σ) (ns : Namespace) (g : Guild) :
    ∃ clashes : List String,
      (runCycle c store ns g).report.errors.take clashes.length = clashes.map clashError ∧
      ((∃ e, (runCycle c store ns g).result = .error ⟨.roleDefinitions, e, (runCycle c store ns g).report⟩ ∧
          (Progress.delivered true (runCycle c store ns g).sent).map Progress.untimed =
            .phaseStarted .roleDefinitions :: clashes.map clashNotice ++ [.fatal ("Role Sync: " ++ e.message)]) ∨
        (∃ e, ∃ j < 4, (runCycle c store ns g).result = .error ⟨.membership, e, (runCycle c store ns g).report⟩ ∧
          (Progress.delivered true (runCycle c store ns g).sent).map Progress.untimed =
            .phaseStarted .roleDefinitions :: clashes.map clashNotice ++
              [.phaseCompleted .roleDefinitions ⟨0⟩, .phaseStarted .membership] ++ fetchedMessages j ++
                [.fatal ("Member Sync: " ++ e.message)]) ∨
        (∃ rep, (runCycle c store ns g).result = .ok rep ∧
          (Progress.delivered true (runCycle c store ns g).sent).map Progress.untimed =
            .phaseStarted .roleDefinitions :: clashes.map clashNotice ++
              [.phaseCompleted .roleDefinitions ⟨0⟩, .phaseStarted .membership] ++ fetchedMessages 4 ++
                [.updatingUsers (rep.updatedUsers.length + rep.failedUsers.length), .usersUpdated ⟨0⟩,
                  .phaseCompleted .membership ⟨0⟩, .cycleCompleted ⟨0⟩])) ∧
      Progress.delivered false (runCycle c store ns g).sent =
        match (runCycle c store ns g).result with
        | .error ce => [.fatal (ce.phase.text ++ ": " ++ ce.error.message)]
        | .ok _ => [] := by
  obtain ⟨clashes, herrors, hcases⟩ := runCycle_stream c store ns g
  refine ⟨clashes, herrors, by rwa [Progress.delivered_true], ?_⟩
  -- a silent requester hears only what follows the informational beginning of the stream
  rcases hcases with ⟨e, hres, hshape⟩ | ⟨e, j, -, hres, hshape⟩ | ⟨rep, hres, hshape⟩
  · rw [Progress.delivered_false_append hshape (informational_rolePrefix clashes), hres]
    simp [Progress.isInformational, Phase.text]
  · rw [Progress.delivered_false_append hshape (informational_membershipPrefix clashes j), hres]
    simp [Progress.isInformational, Phase.text]
  · rw [Progress.delivered_false_append hshape (informational_membershipPrefix clashes 4), hres]
    simp [Progress.isInformational]

theorem untimed_eq_finished {m : Progress} {r : Except CycleError Report} :
    m.untimed = .finished r ↔ m = .finished r := by
  cases m <;> simp [Progress.untimed]

/-- A cycle never sends a result: the result is sent by whoever ran the cycle. -/
theorem runCycle_sends_no_result (c : SyncConfig) (store : σ) (ns : Namespace) (g : Guild) :
    ∀ m ∈ (runCycle c store ns g).sent, ∀ r, m ≠ .finished r := by
  intro m hm r hr
  have hu : Progress.finished r ∈ (runCycle c store ns g).sent.map Progress.untimed :=
    List.mem_map.2 ⟨m, hm, untimed_eq_finished.2 hr⟩
  have hfetched : ∀ j, Progress.finished r ∉ fetchedMessages j := fun j h =>
    absurd (informational_fetchedMessages j _ h) (by simp [Progress.isInformational])
  obtain ⟨clashes, -, hcases⟩ := runCycle_stream c store ns g
  rcases hcases with ⟨e, -, hshape⟩ | ⟨e, j, -, -, hshape⟩ | ⟨rep, -, hshape⟩ <;>
    rw [hshape] at hu <;> simp [clashNotice, hfetched] at hu

end Cycles

end Cycle

end GuildRoles

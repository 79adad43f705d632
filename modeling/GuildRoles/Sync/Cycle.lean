import GuildRoles.Sync.Config
import GuildRoles.Sync.Plan
import GuildRoles.Sync.Progress
import GuildRoles.Store.Source

/-!
# A cycle of synchronisation

A cycle brings the guild in line with the policy of one namespace, in two phases.

*Role definitions.* The policy's roles that take part (their `sync` flag is set and their
display name is not ignored) are compared by display name with the guild's listed roles, the
ignored ones left out; of two roles with one display name the later one counts. Missing roles
are created, surplus ones deleted, and the others edited to the policy's attributes. A name
clash on creation is noted and the cycle carries on; any other refusal of the guild stops it.

*Membership.* The cycle fetches every member, the role map, the policy's roles and their
members, makes the member plan, and replaces the roles of each member the plan updates. A failed
update is noted and the other members are still updated. The names that held-back members hold
without an id are noted as errors, once each, in name order.

A stopped phase sends a fatal message `"<phase>: <error>"` and the cycle returns the error with
the report so far. The guild's changes are not undone. Time is a clock of the cycle that only
delayed role edits move on.
-/

namespace GuildRoles

/-- What a cycle works on and leaves behind. -/
structure CycleState where
  guild : Guild
  report : Report := {}
  sent : List Progress := []
  clock : Duration := ⟨0⟩

/-- A step of a cycle, which may stop with an error. -/
abbrev CycleM := ExceptT SyncError (StateM CycleState)

namespace Cycle

variable {σ : Type} [PolicyView σ]

/-- Sends a progress message. -/
def send (p : Progress) : CycleM Unit := modify fun s => { s with sent := s.sent ++ [p] }

/-- Changes the report. -/
def record (f : Report → Report) : CycleM Unit := modify fun s => { s with report := f s.report }

/-- The clock of the cycle. -/
def now : CycleM Duration := do return (← get).clock

/-- The time since `start`. -/
def since (start : Duration) : CycleM Duration := do return ⟨(← now).nanos - start.nanos⟩

/-- Stops with an error of the guild, as a fatal one. -/
def fatal {α : Type} (r : Except GuildError α) : CycleM α :=
  match r with
  | .ok a => pure a
  | .error e => throw (.platformFatal e)

/-- Stops with an error of the store. -/
def fromStore {α : Type} (r : Except StoreError α) : CycleM α :=
  match r with
  | .ok a => pure a
  | .error e => throw (.policyStore e)

/-- Stops with the error of a computation. -/
def lift {α : Type} (r : Except SyncError α) : CycleM α :=
  match r with
  | .ok a => pure a
  | .error e => throw e

/-- The policy's roles of a namespace that take part in synchronisation. -/
def syncEnabledRoles (c : SyncConfig) (store : σ) (ns : Namespace) : Except SyncError (List Role) :=
  match PolicyView.listRoles store ns with
  | .error e => .error (.policyStore e)
  | .ok roles => .ok (roles.filter fun r => r.sync && !Sorted.contains r.name c.ignoredRoleNames)

/-- The members of a role, its existing filters fetched from the store. -/
def resolve (store : σ) (ns : Namespace) (r : Role) : Except SyncError MemberSet := do
  let found ← r.referencedFilters.foldlM (fun acc name => do
    let present ← (PolicyView.filterExists store ns name).mapError .policyStore
    if present then
      let members ← (PolicyView.filterMembers store ns name).mapError .policyStore
      pure (acc ++ [(name, members)])
    else pure acc) []
  (r.members fun name => found.lookup name).mapError SyncError.ofMembership

/-- Runs a change of the guild. -/
def onGuild (f : Guild → Except GuildError Guild) : CycleM Unit := do
  let g' ← fatal (f (← get).guild)
  modify fun s => { s with guild := g' }

/-- Edits a role within the session's timeout; the clock moves on to the tick on which the
delay's timer fires, or the timeout's when the edit runs out of it. -/
def editRole (session : Session) (a : RoleAttributes) : CycleM Unit := do
  let s ← get
  match s.guild.editDelay with
  | some d =>
    let waited := min d.timerMillis session.editTimeout.timerMillis
    set { s with clock := ⟨s.clock.nanos + (Duration.ofMillis waited).nanos⟩ }
  | none => pure ()
  onGuild fun g => session.editRole g a

/-- Creates the roles of a list. -/
def createRoles : List String → CycleM Unit
  | [] => pure ()
  | name :: rest => do
    match Session.createRole (← get).guild name with
    | .ok (.created, g') =>
      modify fun s => { s with guild := g' }
      record fun r => { r with addedRoles := r.addedRoles ++ [name] }
    | .ok (.alreadyExists, _) =>
      let err := SyncError.ofGuild (.roleExists name)
      send (.notice err.message)
      record fun r => { r with errors := r.errors ++ [err] }
    | .error e => throw (.platformFatal e)
    createRoles rest

/-- Deletes the roles of a list. -/
def deleteRoles : List String → CycleM Unit
  | [] => pure ()
  | name :: rest => do
    onGuild fun g => g.deleteRole name
    record fun r => { r with removedRoles := r.removedRoles ++ [name] }
    deleteRoles rest

/-- Edits the roles of a list to the policy's attributes. -/
def editRoles (session : Session) (policy : List (String × Role)) : List String → CycleM Unit
  | [] => pure ()
  | name :: rest => do
    match Sorted.get? name policy with
    | some role =>
      editRole session role.attributes
      record fun r => { r with updatedRoles := r.updatedRoles ++ [name] }
    | none => pure ()
    editRoles session policy rest

/-- The role-definition phase. -/
def syncRoles (c : SyncConfig) (store : σ) (ns : Namespace) : CycleM Unit := do
  let start ← now
  send (.phaseStarted .roleDefinitions)
  let roles ← lift (syncEnabledRoles c store ns)
  let policy := Sorted.mapOfList (roles.map fun r => (r.name, r))
  let guildNames := (← fatal (Session.roles (← get).guild)).namesExcluding c.ignoredRoleNames
  let plan := RolePlan.ofNames (policy.map Prod.fst) guildNames
  createRoles plan.create
  deleteRoles plan.delete
  editRoles c.session policy plan.update
  send (.phaseCompleted .roleDefinitions (← since start))

/-- Replaces the roles of the members of a list of updates. -/
def updateMembers : List MemberUpdate → CycleM Unit
  | [] => pure ()
  | u :: rest => do
    match (← get).guild.setMemberRoles u.userId u.roleIds with
    | .ok g' =>
      modify fun s => { s with guild := g' }
      record fun r => { r with updatedUsers := r.updatedUsers ++ [u.userId] }
    | .error e =>
      record fun r => { r with errors := r.errors ++ [.partialMemberUpdateFailure u.userId e] }
    updateMembers rest

/-- The users each role of a list gives its display name to. -/
def policyOf (store : σ) (ns : Namespace) :
    List Role → List (UserId × List String) → Except SyncError (List (UserId × List String))
  | [], acc => .ok acc
  | r :: rest, acc => do
    let members ← resolve store ns r
    policyOf store ns rest (members.foldl (fun acc u => Sorted.alter u [] (Sorted.insert r.name) acc) acc)

/-- The membership phase. -/
def syncMembers (c : SyncConfig) (store : σ) (ns : Namespace) : CycleM Unit := do
  let phaseStart ← now
  send (.phaseStarted .membership)
  let start ← now
  let s ← get
  let (fetched, g') := c.session.members s.guild
  set { s with guild := g' }
  let members ← fatal fetched
  send (.fetched .platformMembers (← since start))
  let start ← now
  let roles ← fatal (Session.roles (← get).guild)
  send (.fetched .platformRoles (← since start))
  let start ← now
  let policyRoles ← lift (syncEnabledRoles c store ns)
  send (.fetched .policyRoles (← since start))
  let start ← now
  let managed := Sorted.ofList (policyRoles.map Role.name)
  let policy ← lift (policyOf store ns policyRoles [])
  send (.fetched .roleMemberships (← since start))
  let plan := MemberPlan.ofSnapshot ⟨members, roles, managed, policy, c.noSyncUsers⟩
  let unlisted := plan.held.foldl (fun acc e => Sorted.union acc e.2) []
  record fun r => { r with
    errors := r.errors ++ unlisted.map fun n => .platformTransient (.roleNotFound n),
    skippedUsers := r.skippedUsers ++ plan.skipped }
  let start ← now
  send (.updatingUsers plan.updates.length)
  updateMembers plan.updates
  send (.usersUpdated (← since start))
  send (.phaseCompleted .membership (← since phaseStart))

/-- Runs a phase; when it stops, sends the fatal message and returns the stopped cycle. -/
def runPhase (phase : Phase) (body : CycleM Unit) : StateM CycleState (Except CycleError Unit) := do
  match ← body.run with
  | .ok () => pure (.ok ())
  | .error e =>
    modify fun s => { s with sent := s.sent ++ [Progress.fatal (phase.text ++ ": " ++ e.message)] }
    pure (.error ⟨phase, e, (← get).report⟩)

/-- A whole cycle: both phases, the second only after the first. -/
def run (c : SyncConfig) (store : σ) (ns : Namespace) : StateM CycleState (Except CycleError Report) := do
  let start := (← get).clock
  match ← runPhase .roleDefinitions (syncRoles c store ns) with
  | .error e => pure (.error e)
  | .ok () =>
    match ← runPhase .membership (syncMembers c store ns) with
    | .error e => pure (.error e)
    | .ok () =>
      let s ← get
      set { s with sent := s.sent ++ [Progress.cycleCompleted ⟨s.clock.nanos - start.nanos⟩] }
      pure (.ok s.report)

end Cycle

/-- What a cycle returned, the guild after it and the messages it sent. -/
structure CycleOutcome where
  result : Except CycleError Report
  guild : Guild
  sent : List Progress

/-- Runs a whole cycle for a namespace on a guild with a fresh report. -/
def runCycle {σ : Type} [PolicyView σ] (c : SyncConfig) (store : σ) (ns : Namespace) (g : Guild) :
    CycleOutcome :=
  let (r, s) := (Cycle.run c store ns).run { guild := g }
  ⟨r, s.guild, s.sent⟩

/-- Runs one phase of a cycle on its own with a fresh report: its error if it stopped, its
report, the guild after it and the messages it sent. -/
def runPhaseAlone (body : CycleM Unit) (g : Guild) :
    Option SyncError × Report × Guild × List Progress :=
  let (r, s) := body.run.run { guild := g }
  (match r with | .ok () => none | .error e => some e, s.report, s.guild, s.sent)

/-- The members of a role of a short name. -/
def roleMembership {σ : Type} [PolicyView σ] (store : σ) (ns : Namespace) (short : String) :
    Except SyncError MemberSet := do
  let r ← (PolicyView.role store ns short).mapError .policyStore
  Cycle.resolve store ns r

/-- The roles of a namespace whose members include a user, by short name; roles that cannot be
resolved are left out, unless the store failed. -/
def userRoles {σ : Type} [PolicyView σ] (store : σ) (ns : Namespace) (u : UserId) :
    Except SyncError (List Role) := do
  let roles ← (PolicyView.listRoles store ns).mapError .policyStore
  let sorted := roles.mergeSort fun a b => compare a.shortName b.shortName != .gt
  sorted.foldlM (fun acc r =>
    match Cycle.resolve store ns r with
    | .ok members => .ok (if Sorted.contains u members then acc ++ [r] else acc)
    | .error (.policyStore e) => .error (.policyStore e)
    | .error _ => .ok acc) []

end GuildRoles

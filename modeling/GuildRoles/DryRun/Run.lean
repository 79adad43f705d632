import GuildRoles.DryRun.Options
import GuildRoles.DryRun.Failure
import GuildRoles.DryRun.Fixture
import GuildRoles.DryRun.Printout
import GuildRoles.Sync.Queue

/-!
# A dry run

A dry run reads a fixture (and possibly a settings file that replaces the fixture's settings),
lets the command line change the settings, loads the fixture into an empty store and a new
guild, runs one cycle for the namespace (the fixture's, or the one the command line names), and
prints the messages of the cycle, what it did and the guild after it.

`run` is the whole command as a function of the command line and of the files it can read. A
fault of the command line ends it with status 2, a failure with status 1 and its report, and a
finished cycle with status 0. The cycle runs from a queue; settings that ask for a queue larger
than any queue can be abort the run, with status 101, once the fixture is loaded.
-/

namespace GuildRoles.DryRun

open Json

/-- The files a run can read: the text at a path, or why it cannot be read. -/
abbrev Files := String → Except String String

/-- What a run printed, line by line, and its exit status. -/
structure Outcome where
  status : Nat
  stdout : List String
  stderr : List String
  deriving DecidableEq, Repr

/-- The settings after the changes the command line asks for. -/
def Options.applyTo (o : Options) (c : SyncConfig) : SyncConfig :=
  let c := match o.botRole with
    | some b => c.withBotRole b
    | none => c
  let c := o.ignoredRoles.foldl SyncConfig.ignoreRole c
  let c := o.noSyncUsers.foldl (fun c u => c.noSyncUser ⟨u⟩) c
  match o.pageSize with
  | some n => c.withPageSize n
  | none => c

/-- Reads a file, naming what it was for if that fails. -/
def readFile (files : Files) (what path : String) : Except Failure String :=
  (files path).mapError fun e => ⟨"reading " ++ what ++ " " ++ path, [e]⟩

/-- Everything a cycle needs: the settings, the namespace, the store and the guild. -/
def prepare (files : Files) (o : Options) : Except Failure (SyncConfig × Namespace × Store × Guild) := do
  let text ← readFile files "fixture" o.fixture
  let fixture ← (Fixture.ofText text).mapError fun e =>
    ⟨"parsing fixture " ++ o.fixture, [e.message]⟩
  let config ← match o.config with
    | some path => do
      let t ← readFile files "config" path
      (readText (Read.record SyncConfig.spec) SyncConfig.decode t).mapError fun e =>
        ⟨"parsing config " ++ path, [e.message]⟩
    | none => pure (fixture.config.getD {})
  let (store, guild) ← fixture.seed.mapError fun e => ⟨e.step, [e.cause]⟩
  pure (o.applyTo config, o.ns.getD fixture.ns, store, guild)

/-- The report of a stopped cycle. -/
def cycleFailure (e : CycleError) : Failure := ⟨e.message, [e.error.message]⟩

/-- The abort of a run whose settings ask for a queue larger than any queue can be. -/
def queueTooLarge : Abort :=
  ⟨"rolesync-engine/src/scheduler.rs:120:24",
    "a semaphore may not have more than MAX_PERMITS permits (" ++ toString Queue.maxCapacity ++ ")"⟩

/-- Runs a dry run with options read from the command line. -/
def execute (files : Files) (o : Options) : Outcome :=
  match prepare files o with
  | .error f => ⟨1, [], [f.text]⟩
  | .ok (config, ns, store, guild) =>
    match Queue.ofConfig config with
    | none => ⟨101, [], queueTooLarge.lines⟩
    | some _ =>
      let out := runCycle config store ns guild
      let progress := (Progress.delivered (!o.quiet) out.sent).map Progress.text
      match out.result with
      | .error e => ⟨1, progress, [(cycleFailure e).text]⟩
      | .ok r => ⟨0, progress ++ reportLines r ++ guildLines o.json out.guild, []⟩

/-- Runs the command: `program` is the name the usage lines give it. -/
def run (program : String) (files : Files) (args : List String) : Outcome :=
  match Request.parse args with
  | .error e => ⟨2, [], e.lines program⟩
  | .ok .help => ⟨0, helpLines program, []⟩
  | .ok (.run o) => execute files o

end GuildRoles.DryRun

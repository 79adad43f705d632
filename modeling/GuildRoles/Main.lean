import GuildRoles.DryRun.Run

/-!
# The dry-run command

Reads the command line, then the fixture and the settings file it names, and prints what
`DryRun.execute` gives; the exit status is the run's. A file that cannot be read is reported the
way the operating system words it.
-/

open GuildRoles.DryRun

/-- Why a file could not be read, as the operating system words it. -/
def ioReason : IO.Error → String
  | .noFileOrDirectory _ code d | .permissionDenied _ code d | .inappropriateType _ code d
  | .invalidArgument _ code d | .resourceExhausted _ code d | .noSuchThing _ code d
  | .alreadyExists _ code d | .interrupted _ code d | .otherError code d
  | .resourceBusy code d | .hardwareFault code d | .illegalOperation code d =>
    d ++ " (os error " ++ toString code ++ ")"
  | e => toString e

/-- The text of a file, or why it cannot be read. -/
def readTextFile (path : String) : IO (Except String String) := do
  try
    match String.fromUTF8? (← IO.FS.readBinFile path) with
    | some s => pure (.ok s)
    | none => pure (.error "stream did not contain valid UTF-8")
  catch e => pure (.error (ioReason e))

/-- Prints lines to a stream. -/
def printLines (h : IO.FS.Stream) (lines : List String) : IO Unit :=
  lines.forM fun l => h.putStrLn l

/-- The name the program was started under. -/
def programName : IO String := do
  let path := (← IO.appPath).toString
  pure ((path.splitOn "/").getLastD path)

/-- Runs the dry-run command. -/
def main (args : List String) : IO UInt32 := do
  let program ← programName
  let out ← match Request.parse args with
    | .error e => pure (⟨2, [], e.lines program⟩ : Outcome)
    | .ok .help => pure ⟨0, helpLines program, []⟩
    | .ok (.run o) => do
      let paths := o.fixture :: o.config.toList
      let texts ← paths.mapM fun p => do pure (p, ← readTextFile p)
      let files : Files := fun p => (texts.lookup p).getD (.error "No such file or directory (os error 2)")
      pure (execute files o)
  printLines (← IO.getStdout) out.stdout
  printLines (← IO.getStderr) out.stderr
  pure out.status.toUInt32

import GuildRoles.Text.Integer
import GuildRoles.Text.Similarity

/-!
# The command line of a dry run

A dry run takes the path of a fixture and these options: `--namespace` (`-n`), `--config`
(`-c`), `--bot-role`, `--ignore-role` and `--no-sync-user` (both may be repeated), `--page-size`
(a number up to 65535), the switches `--quiet` (`-q`) and `--json`, and `--help` (`-h`).

Arguments are read from the left. A long option is `--name` or `--name=value`; short options
may be grouped (`-qn corp`), and a short option's value may follow it directly (`-ncorp`,
`-n=corp`). An option without an attached value takes the next argument, unless that argument
looks like an option itself; `--` makes every later argument a plain one.

Values are checked one step late: an option's value is checked when the next option or plain
argument is met, or at the end. That order decides which of two faults is reported. A fault at an
unknown argument passes over a fault in the value before it. Each fault is reported with the
text of the command-line convention: the message, a tip, the usage line, and a pointer to
`--help`.
-/

namespace GuildRoles.DryRun

/-- How a value given to an option is checked. -/
inductive ValueKind where
  | text
  | path
  | pageSize
  deriving DecidableEq, Repr

/-- What an option takes. -/
inductive Takes where
  | switch
  | help
  | once (valueName : String) (kind : ValueKind)
  | repeated (valueName : String) (kind : ValueKind)
  deriving DecidableEq, Repr

/-- An option of the command line. -/
structure OptionSpec where
  long : String
  short : Option Char
  takes : Takes
  about : String
  deriving DecidableEq, Repr

namespace OptionSpec

/-- How messages name an option: its long form with its value name. -/
def display (o : OptionSpec) : String :=
  match o.takes with
  | .once v _ | .repeated v _ => "--" ++ o.long ++ " <" ++ v ++ ">"
  | _ => "--" ++ o.long

/-- How the help lists an option: its short form, if any, then its display. -/
def listing (o : OptionSpec) : String :=
  match o.short with
  | some c => "-" ++ c.toString ++ ", " ++ o.display
  | none => "    " ++ o.display

end OptionSpec

/-- How messages name the fixture path. -/
def fixtureName : String := "<FIXTURE>"

/-- What the help says of the fixture path. -/
def fixtureAbout : String := "JSON fixture with the policy and the platform state"

/-- The options, in the order the help lists them. -/
def options : List OptionSpec :=
  [⟨"namespace", some 'n', .once "NAMESPACE" .text,
      "Sync this namespace instead of the one named in the fixture"⟩,
    ⟨"config", some 'c', .once "PATH" .path,
      "JSON file with sync configuration, replaces the fixture's"⟩,
    ⟨"bot-role", none, .once "ROLE" .text, "Platform role of the bot"⟩,
    ⟨"ignore-role", none, .repeated "ROLE" .text,
      "Platform role which is never touched, can be repeated"⟩,
    ⟨"no-sync-user", none, .repeated "USER_ID" .text,
      "User whose roles are never changed, can be repeated"⟩,
    ⟨"page-size", none, .once "SIZE" .pageSize, "Number of members fetched per page"⟩,
    ⟨"quiet", some 'q', .switch, "Only print failures and the final result"⟩,
    ⟨"json", none, .switch, "Print the final platform state as JSON"⟩,
    ⟨"help", some 'h', .help, "Print help"⟩]

/-- Why a value was refused. -/
inductive ValueFault where
  | empty
  | invalid (shown reason : String)
  deriving DecidableEq, Repr

/-- The check of a value: a path must not be empty, and a page size is a number from 0 to
65535, read as a signed 64-bit number first. -/
def ValueKind.check : ValueKind → String → Option ValueFault
  | .text, _ => none
  | .path, v => if v.isEmpty then some .empty else none
  | .pageSize, v =>
    match Text.readInt .i64 v with
    | .error e => some (.invalid v e.message)
    | .ok n =>
      if 0 ≤ n ∧ n ≤ 65535 then none
      else some (.invalid v (toString n ++ " is not in 0..=65535"))

/-- The usage line of a fault: all options, or the options given so far. -/
inductive Usage where
  | full
  | given (shown : List String)
  deriving DecidableEq, Repr

/-- The text of a usage line, after the program's name. -/
def Usage.text (program : String) : Usage → String
  | .full => program ++ " [OPTIONS] " ++ fixtureName
  | .given shown => " ".intercalate (program :: shown ++ [fixtureName])

/-- A fault of the command line. -/
inductive CommandLineError where
  | unknownArgument (arg : String) (similar : Option String) (asValueTip : Bool) (usage : Usage)
  | missingFixture (usage : Usage)
  | valueRequired (arg : String)
  | invalidValue (arg value reason : String)
  | usedTwice (arg : String) (usage : Usage)
  | unexpectedValue (arg value : String) (usage : Usage)
  deriving DecidableEq, Repr

namespace CommandLineError

/-- The first sentence of a fault. -/
def headline : CommandLineError → String
  | .unknownArgument a _ _ _ => "unexpected argument '" ++ a ++ "' found"
  | .missingFixture _ => "the following required arguments were not provided:\n  " ++ fixtureName
  | .valueRequired a => "a value is required for '" ++ a ++ "' but none was supplied"
  | .invalidValue a v r => "invalid value '" ++ v ++ "' for '" ++ a ++ "': " ++ r
  | .usedTwice a _ => "the argument '" ++ a ++ "' cannot be used multiple times"
  | .unexpectedValue a v _ =>
    "unexpected value '" ++ v ++ "' for '" ++ a ++ "' found; no more were expected"

/-- The tip shown under a fault, if any. -/
def tip : CommandLineError → Option String
  | .unknownArgument _ (some s) _ _ => some ("a similar argument exists: '" ++ s ++ "'")
  | .unknownArgument a none true _ => some ("to pass '" ++ a ++ "' as a value, use '-- " ++ a ++ "'")
  | _ => none

/-- The usage line shown under a fault, if any. -/
def usage : CommandLineError → Option Usage
  | .unknownArgument _ _ _ u | .missingFixture u | .usedTwice _ u | .unexpectedValue _ _ u => some u
  | _ => none

/-- The full report of a fault, one line after another. -/
def lines (program : String) (e : CommandLineError) : List String :=
  ["error: " ++ e.headline] ++
    (match e.tip with | some t => ["", "  tip: " ++ t] | none => []) ++
    (match e.usage with | some u => ["", "Usage: " ++ u.text program] | none => []) ++
    ["", "For more information, try '--help'."]

end CommandLineError

/-- The help of the command line. -/
def helpLines (program : String) : List String :=
  let width := (options.map fun o => o.listing.length).foldl max 0
  let pad (s : String) (n : Nat) : String := s ++ String.ofList (List.replicate (n - s.length) ' ')
  ["Usage: " ++ Usage.full.text program, "", "Arguments:",
    "  " ++ fixtureName ++ "  " ++ fixtureAbout, "", "Options:"] ++
    options.map fun o => "  " ++ pad o.listing width ++ "  " ++ o.about

/-- What a value on the command line is for. -/
inductive Slot where
  | fixture
  | option (o : OptionSpec)
  deriving DecidableEq, Repr

/-- Reading the command line stops to show the help or at a fault. -/
inductive Stop where
  | help
  | fault (e : CommandLineError)
  deriving DecidableEq, Repr

/-- The state of reading the command line. -/
structure Scan where
  /-- The fixture path, once checked. -/
  fixture : Option String := none
  /-- Whether a plain argument was taken as the fixture path. -/
  fixtureTaken : Bool := false
  /-- The options given, by long name, in the order first given, with their values. -/
  given : List (String × List String) := []
  /-- An argument whose values are not checked yet. -/
  pending : Option (Slot × List String) := none
  /-- Whether the pending option still waits for its value. -/
  awaiting : Bool := false
  /-- Whether `--` was met. -/
  escaped : Bool := false
  deriving DecidableEq, Repr

namespace Scan

/-- Whether an option was given. -/
def hasGiven (s : Scan) (long : String) : Bool := s.given.any (·.1 == long)

/-- The values given to an option. -/
def values (s : Scan) (long : String) : List String := (s.given.lookup long).getD []

/-- Records values of an option, after those it already has. -/
def record (s : Scan) (long : String) (vals : List String) : Scan :=
  if s.hasGiven long then
    { s with given := s.given.map fun e => if e.1 == long then (e.1, e.2 ++ vals) else e }
  else { s with given := s.given ++ [(long, vals)] }

/-- How the usage line names the options given so far. -/
def shown (s : Scan) : List String :=
  s.given.filterMap fun e => (options.find? (·.long == e.1)).map OptionSpec.display

/-- The scan with nothing pending. -/
def settle (s : Scan) : Scan := { s with pending := none, awaiting := false }

/-- Checks the values of an option. -/
def checkValues (o : OptionSpec) (k : ValueKind) : List String → Except Stop Unit
  | [] => pure ()
  | v :: vs =>
    match k.check v with
    | some .empty => throw (.fault (.valueRequired o.display))
    | some (.invalid shown reason) => throw (.fault (.invalidValue o.display shown reason))
    | none => checkValues o k vs

/-- Takes the values of an argument: an argument needs a value unless it is a switch, and an
option that is not repeatable may be given once. -/
def apply (s : Scan) : Slot → List String → Except Stop Scan
  | .fixture, vals =>
    match vals with
    | v :: _ => if v.isEmpty then throw (.fault (.valueRequired fixtureName))
      else pure { s with fixture := some v }
    | [] => throw (.fault (.valueRequired fixtureName))
  | .option o, vals =>
    match o.takes with
    | .help => throw .help
    | .switch =>
      if s.hasGiven o.long then throw (.fault (.usedTwice o.display .full))
      else pure (s.record o.long ["true"])
    | .once _ k =>
      if vals.isEmpty then throw (.fault (.valueRequired o.display))
      else if s.hasGiven o.long then throw (.fault (.usedTwice o.display .full))
      else do checkValues o k vals; pure (s.record o.long vals)
    | .repeated _ k =>
      if vals.isEmpty then throw (.fault (.valueRequired o.display))
      else do checkValues o k vals; pure (s.record o.long vals)

/-- Checks the pending argument. -/
def resolve (s : Scan) : Except Stop Scan :=
  match s.pending with
  | none => pure s
  | some (slot, vals) => s.settle.apply slot vals

/-- Checks the pending argument, passing over a fault; an option whose value was refused still
counts as given. -/
def resolveQuietly (s : Scan) : Scan :=
  match s.resolve with
  | .ok s' => s'
  | .error _ =>
    match s.pending with
    | some (.option o, vals) =>
      if !vals.isEmpty && !s.hasGiven o.long then s.settle.record o.long [] else s.settle
    | _ => s.settle

/-- Checks the pending argument, then takes values for another. -/
def react (s : Scan) (slot : Slot) (vals : List String) : Except Stop Scan := do
  (← s.resolve).apply slot vals

/-- Waits for the value of an option. -/
def await (s : Scan) (o : OptionSpec) : Except Stop Scan := do
  pure { (← s.resolve) with pending := some (.option o, []), awaiting := true }

/-- A plain argument: the fixture path, or a fault once the path is taken. -/
def plain (s : Scan) (a : String) : Except Stop Scan :=
  if s.fixtureTaken then
    throw (.fault (.unknownArgument a none false .full))
  else do
    pure { (← s.resolve) with pending := some (.fixture, [a]), fixtureTaken := true }

/-- A long option, `--name` or `--name=value`, given the text after the dashes. -/
def long (s : Scan) (body : String) : Except Stop Scan :=
  let (name, attached) : String × Option String :=
    match body.splitOn "=" with
    | n :: v :: vs => (n, some ("=".intercalate (v :: vs)))
    | _ => (body, none)
  match options.find? (·.long == name) with
  | none =>
    let s := s.resolveQuietly
    let similar := Text.mostSimilar name (options.map (·.long))
    let s := match similar with
      | some l => if s.hasGiven l then s else s.record l []
      | none => s
    let usage := if !s.fixtureTaken && s.given.isEmpty then Usage.full else .given s.shown
    throw (.fault (.unknownArgument ("--" ++ name) (similar.map ("--" ++ ·)) similar.isNone usage))
  | some o =>
    match o.takes, attached with
    | .switch, some v | .help, some v =>
      let s := s.resolveQuietly
      let shown := s.shown ++ (if s.hasGiven o.long then [] else [o.display])
      throw (.fault (.unexpectedValue o.display v (.given shown)))
    | .switch, none | .help, none => s.react (.option o) []
    | _, some v => s.react (.option o) [v]
    | _, none => s.await o

/-- A group of short options, given the characters after the dash. -/
def shorts (s : Scan) : List Char → Except Stop Scan
  | [] => pure s
  | c :: cs =>
    match options.find? (·.short == some c) with
    | none =>
      throw (.fault (.unknownArgument ("-" ++ c.toString) none true .full))
    | some o =>
      match o.takes with
      | .switch | .help => do shorts (← s.react (.option o) []) cs
      | _ =>
        match cs with
        | [] => s.await o
        | '=' :: vs => s.react (.option o) [String.ofList vs]
        | vs => s.react (.option o) [String.ofList vs]

/-- Gives the waiting option its value. -/
def supply (s : Scan) (v : String) : Scan :=
  match s.pending with
  | some (slot, vals) => { s with pending := some (slot, vals ++ [v]), awaiting := false }
  | none => s

/-- Reads one argument. -/
def step (s : Scan) (a : String) : Except Stop Scan :=
  if s.escaped then s.plain a
  else if a == "--" then pure { s with escaped := true }
  else if a.startsWith "--" then s.long (a.drop 2).toString
  else if a.startsWith "-" && a.length > 1 then s.shorts (a.drop 1).toString.toList
  else if s.awaiting then pure (s.supply a)
  else s.plain a

end Scan

/-- Reads arguments from the left. -/
def scanArgs : List String → Scan → Except Stop Scan
  | [], s => s.resolve
  | a :: rest, s => do scanArgs rest (← s.step a)

/-- The options of a dry run. -/
structure Options where
  fixture : String
  ns : Option String := none
  config : Option String := none
  botRole : Option String := none
  ignoredRoles : List String := []
  noSyncUsers : List String := []
  pageSize : Option Nat := none
  quiet : Bool := false
  json : Bool := false
  deriving DecidableEq, Repr

/-- What a command line asks for. -/
inductive Request where
  | help
  | run (o : Options)
  deriving DecidableEq, Repr

/-- Reads a command line. -/
def Request.parse (args : List String) : Except CommandLineError Request :=
  match scanArgs args {} with
  | .error .help => .ok .help
  | .error (.fault e) => .error e
  | .ok s =>
    match s.fixture with
    | none => .error (.missingFixture (.given s.shown))
    | some path =>
      let pageSize := (s.values "page-size").head?.bind fun v =>
        match Text.readInt .i64 v with
        | .ok n => some n.toNat
        | .error _ => none
      let o : Options :=
        { fixture := path, ns := (s.values "namespace").head?,
          config := (s.values "config").head?, botRole := (s.values "bot-role").head?,
          ignoredRoles := s.values "ignore-role", noSyncUsers := s.values "no-sync-user",
          pageSize := pageSize, quiet := s.hasGiven "quiet", json := s.hasGiven "json" }
      .ok (.run o)

end GuildRoles.DryRun

/-!
# Failures of a dry run

A failure is a sentence and the chain of causes under it. Its report is `Error: ` and the
sentence, then, if there are causes, a blank line, `Caused by:`, and the causes one per line:
indented by four places when there is one, numbered from `0` (right-aligned in five places, then
`: `) when there are several. Every further line of a cause is indented as deep as its first.

A run can also abort, when it breaks a limit of the runtime it runs on (`Abort`): its report
names the place and gives the runtime's sentence, and the run ends with status 101.
-/

namespace GuildRoles.DryRun

/-- A failure: what went wrong, and why. -/
structure Failure where
  message : String
  causes : List String := []
  deriving DecidableEq, Repr

/-- A text with `first` before its first line and `rest` before each further line. -/
def indentLines (first rest : String) (s : String) : String :=
  match s.splitOn "\n" with
  | [] => first
  | l :: ls => first ++ l ++ String.join (ls.map fun x => "\n" ++ rest ++ x)

/-- A number right-aligned in five places. -/
def rightAligned (n : Nat) : String :=
  let s := toString n
  String.ofList (List.replicate (5 - s.length) ' ') ++ s

/-- The report of a failure. -/
def Failure.text (f : Failure) : String :=
  "Error: " ++ f.message ++
    match f.causes with
    | [] => ""
    | [c] => "\n\nCaused by:\n" ++ indentLines "    " "    " c
    | cs => "\n\nCaused by:" ++
      String.join (cs.zipIdx.map fun p => "\n" ++ indentLines (rightAligned p.2 ++ ": ") "       " p.1)

/-- An abort: the place in the program where a limit of the runtime was broken, and the
runtime's sentence. -/
structure Abort where
  location : String
  message : String
  deriving DecidableEq, Repr

/-- The lines of the report of an abort. -/
def Abort.lines (a : Abort) : List String :=
  ["thread 'main' panicked at " ++ a.location ++ ":", a.message,
    "note: run with `RUST_BACKTRACE=1` environment variable to display a backtrace"]

example : ({ message := "a", causes := ["b"] } : Failure).text = "Error: a\n\nCaused by:\n    b" := by
  cbv

end GuildRoles.DryRun

import GuildRoles.Sync.Report

/-!
# Progress messages

A requester of a cycle hears of its progress: the start and end of each phase, each snapshot
fetched, the members being updated, notices of errors the cycle carries on after, a fatal
message when it stops, and last its result. Messages that carry an elapsed time show it in
brackets. The fatal message and the result always reach the requester; the others, which are
informational, only when the requester asked to be notified.
-/

namespace GuildRoles

/-- The snapshots the membership phase fetches. -/
inductive Snapshot where
  | platformMembers
  | platformRoles
  | policyRoles
  | roleMemberships
  deriving DecidableEq, Repr

/-- The name of a snapshot. -/
def Snapshot.text : Snapshot → String
  | .platformMembers => "platform members"
  | .platformRoles => "platform roles"
  | .policyRoles => "policy roles"
  | .roleMemberships => "role memberships"

/-- A message to the requester of a cycle. -/
inductive Progress where
  | phaseStarted (phase : Phase)
  | phaseCompleted (phase : Phase) (elapsed : Duration)
  | fetched (snapshot : Snapshot) (elapsed : Duration)
  | updatingUsers (count : Nat)
  | usersUpdated (elapsed : Duration)
  | cycleCompleted (elapsed : Duration)
  | notice (message : String)
  | fatal (message : String)
  | finished (result : Except CycleError Report)

namespace Progress

/-- Whether a message only reaches requesters who asked to be notified. -/
def isInformational : Progress → Bool
  | .fatal _ => false
  | .finished _ => false
  | _ => true

/-- The text of an elapsed time. -/
def elapsedText (d : Duration) : String := " [" ++ d.text ++ "]"

/-- The text of a message. -/
def text : Progress → String
  | .phaseStarted p => "Starting " ++ p.text
  | .phaseCompleted p d => "Completed " ++ p.text ++ elapsedText d
  | .fetched s d => "Got all " ++ s.text ++ elapsedText d
  | .updatingUsers n => "Updating " ++ toString n ++ " platform users"
  | .usersUpdated d => "Updated platform roles" ++ elapsedText d
  | .cycleCompleted d => "Completed All Syncing" ++ elapsedText d
  | .notice m => m
  | .fatal m => m
  | .finished (.ok r) => "Finished: " ++ r.text
  | .finished (.error e) => "Finished with error: " ++ e.message

/-- The messages that reach a requester, who asked to be notified or not. -/
def delivered (notify : Bool) (sent : List Progress) : List Progress :=
  sent.filter fun m => notify || !m.isInformational

end Progress

end GuildRoles

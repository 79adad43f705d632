import GuildRoles.Text.Quoted
import GuildRoles.Json.Writer
import GuildRoles.Guild.Codec
import GuildRoles.Sync.Report

/-!
# What a dry run prints

After a cycle a dry run prints what the cycle did, then the guild. Names stand in lists
(`["A", "B"]`) or sets (`{"A", "B"}`) between double quotes (`Text.quote`); user ids are listed
as `UserId("1")`. The guild is printed as its role names and then a line per member, or, on
request, as an indented JSON list of its members.
-/

namespace GuildRoles.DryRun

/-- Quoted texts between brackets. -/
def quotedList (xs : List String) : String := "[" ++ ", ".intercalate (xs.map Text.quote) ++ "]"

/-- Quoted texts between braces. -/
def quotedSet (xs : List String) : String :=
  "\x7b" ++ ", ".intercalate (xs.map Text.quote) ++ "\x7d"

/-- User ids between brackets. -/
def userIdList (us : List UserId) : String :=
  "[" ++ ", ".intercalate (us.map fun u => "UserId(" ++ Text.quote u.text ++ ")") ++ "]"

/-- The lines that tell what a cycle did: a blank line, a note when nothing changed, the roles
added, removed and updated, the users updated and skipped, and the errors met. -/
def reportLines (r : Report) : List String :=
  [""] ++ (if r.isNoop then ["platform already matches the policy"] else []) ++
    ["added roles:   " ++ quotedList r.addedRoles, "removed roles: " ++ quotedList r.removedRoles,
      "updated roles: " ++ quotedList r.updatedRoles, "updated users: " ++ userIdList r.updatedUsers,
      "skipped users: " ++ userIdList r.skippedUsers] ++
    r.errors.map fun e => "error: " ++ e.message

/-- The lines that show a guild: as JSON, or as its role names and a line per member. -/
def guildLines (asJson : Bool) (g : Guild) : List String :=
  if asJson then [(Json.Value.arr (g.allMembers.map Member.toValue)).pretty]
  else
    ["", "platform roles: " ++ quotedSet g.roleNames] ++
      g.allMembers.map fun m => m.userId.text ++ " (" ++ m.username ++ "): " ++ quotedSet m.roleNames

example : quotedList ["A", "B"] = "[\"A\", \"B\"]" := by decide
example : userIdList [⟨"1"⟩] = "[UserId(\"1\")]" := by decide

end GuildRoles.DryRun

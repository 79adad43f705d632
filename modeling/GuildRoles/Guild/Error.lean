import GuildRoles.UserId
import GuildRoles.Duration

/-!
# Guild errors

What the guild answers when it refuses a call, and how an error that arrives only as a message is
read back: the exact text `The role '<name>' already exists` is a name clash, every other text a
failed request.
-/

namespace GuildRoles

/-- A refusal of the guild. -/
inductive GuildError where
  | roleExists (name : String)
  | roleNotFound (name : String)
  | memberNotFound (user : UserId)
  | timeout (limit : Duration)
  | request (message : String)
  deriving DecidableEq, Repr

namespace GuildError

/-- The text before the name of a role in a name clash. -/
def clashPrefix : String := "The role '"

/-- The text after the name of a role in a name clash. -/
def clashSuffix : String := "' already exists"

/-- The sentence of the error. -/
def message : GuildError → String
  | .roleExists n => clashPrefix ++ n ++ clashSuffix
  | .roleNotFound n => "role '" ++ n ++ "' not found"
  | .memberNotFound u => "member '" ++ u.text ++ "' not found"
  | .timeout d => "platform request timed out after " ++ d.text
  | .request m => "platform request failed: " ++ m

/-- The middle of `s` between a prefix and a suffix that do not overlap, when `s` has both. -/
def between (pre suf s : List Char) : Option (List Char) :=
  if pre.isPrefixOf s then
    let rest := s.drop pre.length
    if suf.isSuffixOf rest then some (rest.take (rest.length - suf.length)) else none
  else none

/-- The error a message stands for. -/
def fromMessage (m : String) : GuildError :=
  match between clashPrefix.toList clashSuffix.toList m.toList with
  | some name => .roleExists (String.ofList name)
  | none => .request m

end GuildError

end GuildRoles

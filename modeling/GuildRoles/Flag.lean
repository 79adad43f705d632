import GuildRoles.Text.Blank
import GuildRoles.Json.Decode

/-!
# Flags

A flag is a yes-or-no setting that administrators type as text. After blanks are trimmed from
both ends, `1` and `true` mean yes and `0` and `false` mean no, the words in any ASCII letter
case; every other text is refused, and the fault quotes the trimmed text.

In decoded data a flag is a boolean, the number 0 or 1, or a flag text.
-/

namespace GuildRoles

/-- A text that is no flag, kept trimmed. -/
structure FlagError where
  text : String
  deriving DecidableEq, Repr

namespace FlagError

/-- The sentence of the fault. -/
def message (e : FlagError) : String :=
  "`" ++ e.text ++ "` is not a valid flag, expected one of 1, 0, true, false"

end FlagError

namespace Flag

/-- Whether two texts are equal once ASCII capitals are made small. -/
def sameLetters (a b : String) : Bool := a.toList.map Char.toLower == b.toList.map Char.toLower

/-- Reads a flag after trimming blanks from both ends. -/
def parse (s : String) : Except FlagError Bool :=
  let t := Text.trim s
  if t = "1" then .ok true
  else if t = "0" then .ok false
  else if sameLetters t "true" then .ok true
  else if sameLetters t "false" then .ok false
  else .error ⟨t⟩

/-- What decoding expects of a flag. -/
def expected : String := "a boolean or one of \"1\", \"0\", \"true\", \"false\""

open Json in
/-- A flag in decoded data: a boolean, the number 0 or 1, or a flag text. A larger number is
refused with the flag fault, a negative one or a fraction as a value of the wrong kind. -/
def decode : Value → Decoded Bool
  | .bool b => .ok b
  | .num (.nat 0) => .ok false
  | .num (.nat 1) => .ok true
  | .num (.nat n) => .error ⟨FlagError.message ⟨toString n⟩⟩
  | .str s =>
    match parse s with
    | .ok b => .ok b
    | .error e => .error ⟨e.message⟩
  | v => .error (.invalidType v expected)

end Flag

end GuildRoles

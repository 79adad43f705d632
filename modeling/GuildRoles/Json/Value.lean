import GuildRoles.Json.Binary64
import GuildRoles.Text.Quoted

/-!
# JSON values

A JSON value as the input format reads it. Numbers come in three kinds: a natural number below
`2^64`, a negative integer not below `-2^63`, and a binary64 number for everything else (a point,
an exponent, or an integer outside those ranges). Objects keep one entry per key, ordered by key.

`Value.describe` is the phrase that names a value in a message about a value of the wrong kind
("integer `5`", "string \"x\"", "sequence").
-/

namespace GuildRoles.Json

/-- A JSON number in one of its three kinds. -/
inductive Number where
  | nat (n : Nat)
  | neg (n : Int)
  | float (x : Binary64)
  deriving DecidableEq, Repr

/-- A JSON value. -/
inductive Value where
  | null
  | bool (b : Bool)
  | num (n : Number)
  | str (s : String)
  | arr (items : List Value)
  | obj (entries : List (String × Value))
  deriving Repr

namespace Value

/-- The value stored under a key of an object, if any. -/
def get? (v : Value) (key : String) : Option Value :=
  match v with
  | .obj entries => entries.lookup key
  | _ => none

/-- Inserts or replaces the entry of a key, keeping the entries ordered by key. -/
def insertEntry (key : String) (v : Value) : List (String × Value) → List (String × Value)
  | [] => [(key, v)]
  | (k, w) :: rest =>
    if key < k then (key, v) :: (k, w) :: rest
    else if key = k then (key, v) :: rest
    else (k, w) :: insertEntry key v rest

/-- An object built from entries; a later entry for a key replaces an earlier one. -/
def ofEntries (entries : List (String × Value)) : Value :=
  .obj (entries.foldl (fun acc e => insertEntry e.1 e.2 acc) [])

/-- A natural number as a value. -/
def ofNat (n : Nat) : Value := .num (.nat n)

/-- An integer as a value. -/
def ofInt (n : Int) : Value := if n < 0 then .num (.neg n) else .num (.nat n.toNat)

/-- A list of texts as a value. -/
def ofStrings (xs : List String) : Value := .arr (xs.map .str)

end Value

/-- The phrase naming a number in a message. -/
def Number.describe : Number → String
  | .nat n => s!"integer `{n}`"
  | .neg n => s!"integer `{n}`"
  | .float x => "floating point `" ++ x.messageText ++ "`"

/-- The phrase naming a value in a message about a value of the wrong kind. -/
def Value.describe : Value → String
  | .null => "null"
  | .bool b => s!"boolean `{b}`"
  | .num n => n.describe
  | .str s => "string " ++ Text.quote s
  | .arr _ => "sequence"
  | .obj _ => "map"

end GuildRoles.Json

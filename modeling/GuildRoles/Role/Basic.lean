import GuildRoles.Flag
import GuildRoles.Text.Integer

/-!
# Roles

A role of the policy has a short name (its identity within a namespace), a display name (what
the guild shows), a kind, two filter references and the attributes that the guild keeps. Its
members are those of its two filters (see `GuildRoles.Membership`); the filter reference
`wildcard` stands for everyone.

Administrators change one attribute at a time, naming it by a key in any ASCII letter case and
giving the new value as text: a number is read after trimming blanks, a flag as `Flag.parse`
reads it, and an empty value is refused before anything else.
-/

namespace GuildRoles

/-- The name that stands for everyone in a filter reference. -/
def wildcardName : String := "wildcard"

/-- A reference from a role to one of its filters. -/
inductive FilterRef where
  | wildcard
  | named (name : String)
  deriving DecidableEq, Repr

namespace FilterRef

/-- The reference a text stands for; only the exact text `wildcard` is the wildcard. -/
def ofString (s : String) : FilterRef := if s = wildcardName then .wildcard else .named s

/-- The text of a reference. -/
def text : FilterRef → String
  | .wildcard => wildcardName
  | .named n => n

/-- The filter's name, unless the reference is the wildcard. -/
def name? : FilterRef → Option String
  | .wildcard => none
  | .named n => some n

/-- Whether the reference is the wildcard. -/
def isWildcard : FilterRef → Bool
  | .wildcard => true
  | .named _ => false

end FilterRef

/-- Whether a filter name is taken by the wildcard. -/
def isReservedFilterName (name : String) : Bool := name == wildcardName

/-- Where a role lives: in the policy only, or also on the guild. -/
inductive RoleKind where
  | internal
  | discord
  deriving DecidableEq, Repr

/-- The attributes an administrator may change. -/
inductive RoleKey where
  | name
  | color
  | hoist
  | position
  | permissions
  | joinable
  | managed
  | mentionable
  | sig
  | sync
  deriving DecidableEq, Repr

namespace RoleKey

/-- Every key, in the order they are tried when a key is read. -/
def all : List RoleKey :=
  [.name, .color, .hoist, .position, .permissions, .joinable, .managed, .mentionable, .sig, .sync]

/-- The name of a key. -/
def text : RoleKey → String
  | .name => "Name"
  | .color => "Color"
  | .hoist => "Hoist"
  | .position => "Position"
  | .permissions => "Permissions"
  | .joinable => "Joinable"
  | .managed => "Managed"
  | .mentionable => "Mentionable"
  | .sig => "Sig"
  | .sync => "Sync"

end RoleKey

/-- Why an administrative change of a role was refused. -/
inductive RoleUpdateError where
  | invalidKey (text : String)
  | invalidRoleType (text : String)
  | emptyValue (key : RoleKey)
  | invalidNumber (key : RoleKey) (text : String)
  | invalidFlag (e : FlagError)
  deriving DecidableEq, Repr

namespace RoleUpdateError

/-- The sentence of the fault. -/
def message : RoleUpdateError → String
  | .invalidKey s => "`" ++ s ++ "` isn't a valid role key"
  | .invalidRoleType s => "`" ++ s ++ "` isn't a valid role type"
  | .emptyValue k => "value for " ++ k.text ++ " is required"
  | .invalidNumber k s => "`" ++ s ++ "` is not a valid number for " ++ k.text
  | .invalidFlag e => e.message

end RoleUpdateError

namespace RoleKey

/-- Reads a key by its name in any ASCII letter case. -/
def parse (s : String) : Except RoleUpdateError RoleKey :=
  match all.find? fun k => Flag.sameLetters k.text s with
  | some k => .ok k
  | none => .error (.invalidKey s)

end RoleKey

namespace RoleKind

/-- The name of a kind. -/
def text : RoleKind → String
  | .internal => "internal"
  | .discord => "discord"

/-- Reads a kind by its exact name. -/
def parse (s : String) : Except RoleUpdateError RoleKind :=
  if s = "internal" then .ok .internal
  else if s = "discord" then .ok .discord
  else .error (.invalidRoleType s)

end RoleKind

/-- What the guild knows of a role. -/
structure RoleAttributes where
  name : String
  color : UInt32
  permissions : UInt64
  position : Int32
  hoist : Bool
  mentionable : Bool
  managed : Bool
  deriving DecidableEq, Repr

/-- A role of the policy. -/
structure Role where
  shortName : String
  name : String
  kind : RoleKind := .internal
  filterA : FilterRef
  filterB : FilterRef
  color : UInt32 := 0
  hoist : Bool := false
  position : Int32 := 0
  permissions : UInt64 := 0
  managed : Bool := false
  mentionable : Bool := false
  joinable : Bool := false
  sig : Bool := false
  sync : Bool := false
  deriving DecidableEq, Repr

namespace Role

/-- The attributes the guild is given for the role. -/
def attributes (r : Role) : RoleAttributes :=
  ⟨r.name, r.color, r.permissions, r.position, r.hoist, r.mentionable, r.managed⟩

/-- The names of the filters a role refers to, the first filter's before the second's. -/
def referencedFilters (r : Role) : List String := [r.filterA, r.filterB].filterMap FilterRef.name?

/-- Reads a number of a width from an administrator's text, trimmed; the fault quotes the text as
given. -/
def readNumber (w : Text.IntWidth) (k : RoleKey) (v : String) : Except RoleUpdateError Int :=
  match Text.readInt w (Text.trim v) with
  | .ok n => .ok n
  | .error _ => .error (.invalidNumber k v)

/-- Reads a flag from an administrator's text. -/
def readFlag (v : String) : Except RoleUpdateError Bool :=
  match Flag.parse v with
  | .ok b => .ok b
  | .error e => .error (.invalidFlag e)

/-- Changes one attribute of a role to the value a text gives. -/
def update (r : Role) (k : RoleKey) (v : String) : Except RoleUpdateError Role :=
  if v.isEmpty then .error (.emptyValue k)
  else
    match k with
    | .name => .ok { r with name := v }
    | .color => do
      let n ← readNumber .u32 k v
      pure { r with color := n.toNat.toUInt32 }
    | .position => do
      let n ← readNumber .i32 k v
      pure { r with position := n.toInt32 }
    | .permissions => do
      let n ← readNumber .u64 k v
      pure { r with permissions := n.toNat.toUInt64 }
    | .hoist => do pure { r with hoist := ← readFlag v }
    | .joinable => do pure { r with joinable := ← readFlag v }
    | .managed => do pure { r with managed := ← readFlag v }
    | .mentionable => do pure { r with mentionable := ← readFlag v }
    | .sig => do pure { r with sig := ← readFlag v }
    | .sync => do pure { r with sync := ← readFlag v }

end Role

end GuildRoles

import GuildRoles.Role.Basic
import GuildRoles.Json.Decode
import GuildRoles.Json.Stream

/-!
# Roles as JSON values

A role is written as an object with the keys `short_name`, `name`, `type`, `filter_a`,
`filter_b`, `color`, `hoist`, `position`, `permissions`, `managed`, `mentionable`, `joinable`,
`sig` and `sync`; a filter reference is written as its text and a kind as its name.

Reading a role needs `short_name`, `name`, `filter_a` and `filter_b`; the other keys may be
absent and then take the values of a new role. Flags may be written as flag texts or as 0 and 1.
A role may also be given as a list of its fields in the order above, which may stop early after
a field that has a default.
-/

namespace GuildRoles

open Json

namespace FilterRef

/-- A reference as a value: its text. -/
def toValue (f : FilterRef) : Value := .str f.text

/-- A reference from a text value. -/
def decode (v : Value) : Decoded FilterRef := (Decode.string v).map ofString

end FilterRef

namespace RoleKind

/-- A kind as a value: its name. -/
def toValue (k : RoleKind) : Value := .str k.text

/-- A kind from its name. -/
def decode : Value → Decoded RoleKind :=
  Decode.variant [("internal", .internal), ("discord", .discord)]

end RoleKind

/-- A 32-bit colour value. -/
def decodeColor (v : Value) : Decoded UInt32 :=
  (Decode.integer .u32 "u32" v).map fun n => n.toNat.toUInt32

/-- A 32-bit signed position. -/
def decodePosition (v : Value) : Decoded Int32 :=
  (Decode.integer .i32 "i32" v).map Int.toInt32

/-- A 64-bit permission mask. -/
def decodePermissions (v : Value) : Decoded UInt64 :=
  (Decode.integer .u64 "u64" v).map fun n => n.toNat.toUInt64

namespace RoleAttributes

/-- Attributes as an object. -/
def toValue (a : RoleAttributes) : Value :=
  .obj [("color", .ofNat a.color.toNat), ("hoist", .bool a.hoist), ("managed", .bool a.managed),
    ("mentionable", .bool a.mentionable), ("name", .str a.name),
    ("permissions", .ofNat a.permissions.toNat), ("position", .ofInt a.position.toInt)]

/-- The checks of the known keys of an attributes object. -/
def checks : List Decode.FieldCheck :=
  [Decode.check "name" Decode.string, Decode.check "color" decodeColor,
    Decode.check "permissions" decodePermissions, Decode.check "position" decodePosition,
    Decode.check "hoist" Decode.bool, Decode.check "mentionable" Decode.bool,
    Decode.check "managed" Decode.bool]

/-- What a list of attributes is expected to hold. -/
def expectedItems : String := "struct RoleAttributes with 7 elements"

/-- Attributes from an object or a list; every field is needed. -/
def decode : Value → Decoded RoleAttributes
  | .obj entries => do
    Decode.checkEntries checks entries
    let name ← Decode.required entries "name" Decode.string
    let color ← Decode.required entries "color" decodeColor
    let permissions ← Decode.required entries "permissions" decodePermissions
    let position ← Decode.required entries "position" decodePosition
    let hoist ← Decode.required entries "hoist" Decode.bool
    let mentionable ← Decode.required entries "mentionable" Decode.bool
    let managed ← Decode.required entries "managed" Decode.bool
    pure ⟨name, color, permissions, position, hoist, mentionable, managed⟩
  | .arr items => do
    let name ← Decode.item items 0 expectedItems Decode.string
    let color ← Decode.item items 1 expectedItems decodeColor
    let permissions ← Decode.item items 2 expectedItems decodePermissions
    let position ← Decode.item items 3 expectedItems decodePosition
    let hoist ← Decode.item items 4 expectedItems Decode.bool
    let mentionable ← Decode.item items 5 expectedItems Decode.bool
    let managed ← Decode.item items 6 expectedItems Decode.bool
    Decode.noSurplus items 7
    pure ⟨name, color, permissions, position, hoist, mentionable, managed⟩
  | v => .error (.invalidType v "struct RoleAttributes")

end RoleAttributes

namespace Role

/-- A role as an object, its keys in order. -/
def toValue (r : Role) : Value :=
  .obj [("color", .ofNat r.color.toNat), ("filter_a", r.filterA.toValue),
    ("filter_b", r.filterB.toValue), ("hoist", .bool r.hoist), ("joinable", .bool r.joinable),
    ("managed", .bool r.managed), ("mentionable", .bool r.mentionable), ("name", .str r.name),
    ("permissions", .ofNat r.permissions.toNat), ("position", .ofInt r.position.toInt),
    ("short_name", .str r.shortName), ("sig", .bool r.sig), ("sync", .bool r.sync),
    ("type", r.kind.toValue)]

/-- The checks of the known keys of a role object. -/
def checks : List Decode.FieldCheck :=
  [Decode.check "short_name" Decode.string, Decode.check "name" Decode.string,
    Decode.check "type" RoleKind.decode, Decode.check "filter_a" FilterRef.decode,
    Decode.check "filter_b" FilterRef.decode, Decode.check "color" decodeColor,
    Decode.check "hoist" Flag.decode, Decode.check "position" decodePosition,
    Decode.check "permissions" decodePermissions, Decode.check "managed" Flag.decode,
    Decode.check "mentionable" Flag.decode, Decode.check "joinable" Flag.decode,
    Decode.check "sig" Flag.decode, Decode.check "sync" Flag.decode]

/-- What a list of role fields is expected to hold. -/
def expectedItems : String := "struct Role with 14 elements"

/-- A role from the entries of an object. -/
def ofEntries (entries : List (String × Value)) : Decoded Role := do
  Decode.checkEntries checks entries
  let shortName ← Decode.required entries "short_name" Decode.string
  let name ← Decode.required entries "name" Decode.string
  let kind ← Decode.withDefault entries "type" RoleKind.decode .internal
  let filterA ← Decode.required entries "filter_a" FilterRef.decode
  let filterB ← Decode.required entries "filter_b" FilterRef.decode
  let color ← Decode.withDefault entries "color" decodeColor 0
  let hoist ← Decode.withDefault entries "hoist" Flag.decode false
  let position ← Decode.withDefault entries "position" decodePosition 0
  let permissions ← Decode.withDefault entries "permissions" decodePermissions 0
  let managed ← Decode.withDefault entries "managed" Flag.decode false
  let mentionable ← Decode.withDefault entries "mentionable" Flag.decode false
  let joinable ← Decode.withDefault entries "joinable" Flag.decode false
  let sig ← Decode.withDefault entries "sig" Flag.decode false
  let sync ← Decode.withDefault entries "sync" Flag.decode false
  pure ⟨shortName, name, kind, filterA, filterB, color, hoist, position, permissions, managed,
    mentionable, joinable, sig, sync⟩

/-- A role from a list of its fields. -/
def ofItems (items : List Value) : Decoded Role := do
  let shortName ← Decode.item items 0 expectedItems Decode.string
  let name ← Decode.item items 1 expectedItems Decode.string
  let kind ← Decode.itemOr items 2 RoleKind.decode .internal
  let filterA ← Decode.item items 3 expectedItems FilterRef.decode
  let filterB ← Decode.item items 4 expectedItems FilterRef.decode
  let color ← Decode.itemOr items 5 decodeColor 0
  let hoist ← Decode.itemOr items 6 Flag.decode false
  let position ← Decode.itemOr items 7 decodePosition 0
  let permissions ← Decode.itemOr items 8 decodePermissions 0
  let managed ← Decode.itemOr items 9 Flag.decode false
  let mentionable ← Decode.itemOr items 10 Flag.decode false
  let joinable ← Decode.itemOr items 11 Flag.decode false
  let sig ← Decode.itemOr items 12 Flag.decode false
  let sync ← Decode.itemOr items 13 Flag.decode false
  Decode.noSurplus items 14
  pure ⟨shortName, name, kind, filterA, filterB, color, hoist, position, permissions, managed,
    mentionable, joinable, sig, sync⟩

/-- How a role is read from JSON text. -/
def spec : Read.RecordSpec :=
  let flag := Read.flag Flag.expected Flag.decode
  ⟨"Role", [⟨"short_name", true, Read.text⟩, ⟨"name", true, Read.text⟩,
    ⟨"type", false, Read.variant ["internal", "discord"]⟩, ⟨"filter_a", true, Read.text⟩,
    ⟨"filter_b", true, Read.text⟩, ⟨"color", false, Read.integer .u32 "u32"⟩, ⟨"hoist", false, flag⟩,
    ⟨"position", false, Read.integer .i32 "i32"⟩, ⟨"permissions", false, Read.integer .u64 "u64"⟩,
    ⟨"managed", false, flag⟩, ⟨"mentionable", false, flag⟩, ⟨"joinable", false, flag⟩,
    ⟨"sig", false, flag⟩, ⟨"sync", false, flag⟩]⟩

/-- A role from an object or a list of its fields. -/
def decode : Value → Decoded Role
  | .obj entries => ofEntries entries
  | .arr items => ofItems items
  | v => .error (.invalidType v "struct Role")

end Role

end GuildRoles

import GuildRoles.Guild.Basic
import GuildRoles.Role.Codec

/-!
# Guild data as JSON values

A member is written as an object with the keys `user_id`, `username` and `role_names`, in that
order; a change of the guild as an object whose one key names the change (`CreateRole`,
`DeleteRole`, `EditRole`, `SetMemberRoles`). Reading a member needs `user_id`; the username and
the role names may be absent.
-/

namespace GuildRoles

open Json

/-- A user id as a value: its text. -/
def UserId.toValue (u : UserId) : Value := .str u.text

/-- A list of user ids as a value. -/
def UserId.listValue (us : List UserId) : Value := .arr (us.map UserId.toValue)

/-- A list of user ids from a list of texts. -/
def UserId.decodeList (v : Value) : Decoded (List UserId) :=
  (Decode.list Decode.string v).map (·.map UserId.mk)

/-- A role id as a value: its text. -/
def RoleId.toValue (id : RoleId) : Value := .str id.text

/-- A member as an object. -/
def Member.toValue (m : Member) : Value :=
  .obj [("user_id", m.userId.toValue), ("username", .str m.username),
    ("role_names", Value.ofStrings m.roleNames)]

/-- What a list of member fields is expected to hold. -/
def Member.expectedItems : String := "struct PlatformMember with 3 elements"

/-- A member from an object or a list of its fields; the role names are kept as a set. -/
def Member.decode : Value → Decoded Member
  | .obj entries => do
    let names (v : Value) : Decoded (List String) := (Decode.list Decode.string v).map Sorted.ofList
    Decode.checkEntries [Decode.check "user_id" Decode.string, Decode.check "username" Decode.string,
      Decode.check "role_names" names] entries
    let u ← Decode.required entries "user_id" Decode.string
    let username ← Decode.withDefault entries "username" Decode.string ""
    let roleNames ← Decode.withDefault entries "role_names" names []
    pure ⟨⟨u⟩, username, roleNames⟩
  | .arr items => do
    let names (v : Value) : Decoded (List String) := (Decode.list Decode.string v).map Sorted.ofList
    let u ← Decode.item items 0 Member.expectedItems Decode.string
    let username ← Decode.itemOr items 1 Decode.string ""
    let roleNames ← Decode.itemOr items 2 names []
    Decode.noSurplus items 3
    pure ⟨⟨u⟩, username, roleNames⟩
  | v => .error (.invalidType v "struct PlatformMember")

/-- A change of the guild as an object. -/
def Mutation.toValue : Mutation → Value
  | .createRole n => .obj [("CreateRole", .str n)]
  | .deleteRole n => .obj [("DeleteRole", .str n)]
  | .editRole n => .obj [("EditRole", .str n)]
  | .setMemberRoles u ids => .obj [("SetMemberRoles", .arr [u.toValue, .arr (ids.map RoleId.toValue)])]

end GuildRoles

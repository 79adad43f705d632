import GuildRoles.Guild.Session
import GuildRoles.Json.Decode
import GuildRoles.Json.Stream

/-!
# Settings of synchronisation

The settings of a cycle and of the queue in front of it: the guild role of the synchroniser
itself, further guild roles that are never touched, users whose roles are never changed, the
member page size, the timeouts of role edits and of member calls, and how many requests may wait.
`@everyone` and the synchroniser's own role are always among the ignored roles.

In JSON every setting may be absent, and then keeps its default; the timeouts are given in whole
seconds.
-/

namespace GuildRoles

/-- The settings of synchronisation. -/
structure SyncConfig where
  botRole : Option String := none
  ignoredRoles : List String := []
  noSyncUsers : List UserId := []
  pageSize : Nat := 1000
  editRoleTimeout : Duration := Duration.ofSeconds 300
  memberTimeout : Duration := Duration.ofSeconds 20
  queueCapacity : Nat := 1
  deriving DecidableEq, Repr

namespace SyncConfig

/-- Names the synchroniser's own role. -/
def withBotRole (c : SyncConfig) (name : String) : SyncConfig := { c with botRole := some name }

/-- Adds a role that is never touched. -/
def ignoreRole (c : SyncConfig) (name : String) : SyncConfig :=
  { c with ignoredRoles := Sorted.insert name c.ignoredRoles }

/-- Adds a user whose roles are never changed. -/
def noSyncUser (c : SyncConfig) (u : UserId) : SyncConfig :=
  { c with noSyncUsers := Sorted.insert u c.noSyncUsers }

/-- Sets the member page size. -/
def withPageSize (c : SyncConfig) (n : Nat) : SyncConfig := { c with pageSize := n }

/-- The guild roles a cycle never creates, deletes, edits or assigns. -/
def ignoredRoleNames (c : SyncConfig) : List String :=
  let names := Sorted.insert everyoneRole c.ignoredRoles
  match c.botRole with
  | some b => Sorted.insert b names
  | none => names

/-- The number of requests that may wait, at least one. -/
def effectiveQueueCapacity (c : SyncConfig) : Nat := max c.queueCapacity 1

/-- The session a cycle talks to the guild through. -/
def session (c : SyncConfig) : Session :=
  ({ editTimeout := c.editRoleTimeout, memberTimeout := c.memberTimeout } : Session).withPageSize
    c.pageSize

open Json

/-- A set of texts. -/
def decodeNames (v : Value) : Decoded (List String) := (Decode.list Decode.string v).map Sorted.ofList

/-- A set of user ids. -/
def decodeUsers (v : Value) : Decoded (List UserId) :=
  (Decode.list Decode.string v).map fun xs => Sorted.ofList (xs.map UserId.mk)

/-- A timeout in whole seconds. -/
def decodeSeconds (v : Value) : Decoded Duration :=
  (Decode.natural .u64 "u64" v).map Duration.ofSeconds

/-- The checks of the known keys of a settings object. -/
def checks : List Decode.FieldCheck :=
  [Decode.check "bot_role" (Decode.option Decode.string), Decode.check "ignored_roles" decodeNames,
    Decode.check "no_sync_users" decodeUsers, Decode.check "page_size" (Decode.natural .u16 "u16"),
    Decode.check "edit_role_timeout_secs" decodeSeconds,
    Decode.check "member_timeout_secs" decodeSeconds,
    Decode.check "queue_capacity" (Decode.natural .u64 "usize")]

/-- How settings are read from JSON text. -/
def spec : Read.RecordSpec :=
  ⟨"SyncConfig", [⟨"bot_role", false, Read.option Read.text⟩, ⟨"ignored_roles", false, Read.list Read.text⟩,
    ⟨"no_sync_users", false, Read.list Read.text⟩, ⟨"page_size", false, Read.integer .u16 "u16"⟩,
    ⟨"edit_role_timeout_secs", false, Read.integer .u64 "u64"⟩,
    ⟨"member_timeout_secs", false, Read.integer .u64 "u64"⟩,
    ⟨"queue_capacity", false, Read.integer .u64 "usize"⟩]⟩

/-- Settings from an object or a list of settings; absent ones keep their defaults. -/
def decode : Value → Decoded SyncConfig
  | .obj entries => do
    Decode.checkEntries checks entries
    let d : SyncConfig := {}
    let botRole ← Decode.withDefault entries "bot_role" (Decode.option Decode.string) d.botRole
    let ignoredRoles ← Decode.withDefault entries "ignored_roles" decodeNames d.ignoredRoles
    let noSyncUsers ← Decode.withDefault entries "no_sync_users" decodeUsers d.noSyncUsers
    let pageSize ← Decode.withDefault entries "page_size" (Decode.natural .u16 "u16") d.pageSize
    let editRoleTimeout ←
      Decode.withDefault entries "edit_role_timeout_secs" decodeSeconds d.editRoleTimeout
    let memberTimeout ← Decode.withDefault entries "member_timeout_secs" decodeSeconds d.memberTimeout
    let queueCapacity ←
      Decode.withDefault entries "queue_capacity" (Decode.natural .u64 "usize") d.queueCapacity
    pure ⟨botRole, ignoredRoles, noSyncUsers, pageSize, editRoleTimeout, memberTimeout,
      queueCapacity⟩
  | .arr items => do
    let d : SyncConfig := {}
    let botRole ← Decode.itemOr items 0 (Decode.option Decode.string) d.botRole
    let ignoredRoles ← Decode.itemOr items 1 decodeNames d.ignoredRoles
    let noSyncUsers ← Decode.itemOr items 2 decodeUsers d.noSyncUsers
    let pageSize ← Decode.itemOr items 3 (Decode.natural .u16 "u16") d.pageSize
    let editRoleTimeout ← Decode.itemOr items 4 decodeSeconds d.editRoleTimeout
    let memberTimeout ← Decode.itemOr items 5 decodeSeconds d.memberTimeout
    let queueCapacity ← Decode.itemOr items 6 (Decode.natural .u64 "usize") d.queueCapacity
    Decode.noSurplus items 7
    pure ⟨botRole, ignoredRoles, noSyncUsers, pageSize, editRoleTimeout, memberTimeout,
      queueCapacity⟩
  | v => .error (.invalidType v "struct SyncConfig")

end SyncConfig

end GuildRoles

import GuildRoles.Json.Stream
import GuildRoles.Role.Codec
import GuildRoles.Sync.Config
import GuildRoles.Store.Basic
import GuildRoles.Guild.Basic

/-!
# Fixtures of a dry run

A fixture is the policy of one namespace and the state of a guild before a cycle: the filters
with their members, the roles, the guild's roles with fixed ids, its members with the names of
their roles, and possibly settings.

A fixture is read from JSON text, an object with `namespace` (needed), `config`, `filters`,
`roles` and `platform`, or a list of these in that order; `Fixture.read` checks the text the way
every record of this library is read (`Json.Read.record`). A filter is an object only: its
`members` are read as a list of texts, every other entry is kept as it is, and the filter's
`name` and `description` are then taken from the kept entries, and faults there are placed after
the object.

Loading a fixture into a store and a guild goes filter by filter (the filter, then its
members), then role by role, then through the guild's roles and members; it stops at the first
step that fails and names it.
-/

namespace GuildRoles

open Json

/-- A filter with its members. -/
structure FilterSeed where
  filter : Filter
  members : List UserId := []
  deriving DecidableEq, Repr

/-- A guild role with a fixed id. -/
structure RoleSeed where
  id : RoleId
  name : String
  deriving DecidableEq, Repr

/-- A member of the guild before the cycle, with the names of its roles as a set. -/
structure MemberSeed where
  userId : UserId
  username : String := ""
  roles : List String := []
  deriving DecidableEq, Repr

/-- The guild before the cycle. -/
structure GuildSeed where
  roles : List RoleSeed := []
  members : List MemberSeed := []
  deriving DecidableEq, Repr

/-- The policy of a namespace, the guild before the cycle, and possibly settings. -/
structure Fixture where
  ns : Namespace
  config : Option SyncConfig := none
  filters : List FilterSeed := []
  roles : List Role := []
  guild : GuildSeed := {}
  deriving DecidableEq, Repr

namespace FilterSeed

/-- A kept value that must be a text. -/
def keptText : Value → Decoded String
  | .str s => .ok s
  | v => .error ⟨"invalid type: " ++ v.describe ++ ", expected a string"⟩

/-- The name and description among the kept entries, in the order of the text; each may be
given once. -/
def nameAndDescription :
    List (String × Value) → Option String → Option String → Decoded (Option String × Option String)
  | [], n, d => .ok (n, d)
  | (k, v) :: rest, n, d =>
    if k == "name" then
      if n.isSome then .error ⟨"duplicate field `name`"⟩
      else do nameAndDescription rest (some (← keptText v)) d
    else if k == "description" then
      if d.isSome then .error ⟨"duplicate field `description`"⟩
      else do nameAndDescription rest n (some (← keptText v))
    else nameAndDescription rest n d

/-- The filter described by the kept entries. -/
def filterOfKept (kept : List (String × Value)) : Decoded Filter := do
  let (n, d) ← nameAndDescription kept none none
  match n, d with
  | some n, some d => pure ⟨n, d⟩
  | none, _ => .error (.missingField "name")
  | _, none => .error (.missingField "description")

/-- Reads the entries of a filter object up to its closing brace: the members, and every other
entry kept. -/
def entries (budget : Nat) :
    Nat → Bool → Option Value → List (String × Value) → Read (Option Value × List (String × Value))
  | 0, _, m, acc => pure (m, acc.reverse)
  | fuel + 1, first, m, acc => do
    match ← Read.keyStart first with
    | none => pure (m, acc.reverse)
    | some () =>
      let key ← Read.string
      if key == "members" then
        if m.isSome then Read.failMeaning "duplicate field `members`"
        else do
          Read.colon
          let v ← Read.list Read.text budget
          entries budget fuel false (some v) acc
      else do
        Read.colon
        let v ← Read.anyValue budget
        entries budget fuel false m ((key, v) :: acc)

/-- Reads a filter with its members. -/
def read : Read.Field := fun budget => Read.fixPlace do
  match ← Read.blank with
  | none => Read.failPeek .eofInValue
  | some 123 => do
    Read.enter budget
    Read.bump
    Read.thenEnd (do
      let (members, kept) ← entries (budget - 1) (← Read.fuelLeft) true none []
      let f ← Read.decoded (filterOfKept kept)
      pure (.obj [("name", .str f.name), ("description", .str f.description),
        ("members", members.getD (.arr []))])) Read.objectEnd
  | some _ => Read.peekInvalidType "struct FilterFixture"

/-- A filter with its members from what `read` gave. -/
def decode : Value → Decoded FilterSeed
  | .obj e => do
    let name ← Decode.required e "name" Decode.string
    let description ← Decode.required e "description" Decode.string
    let members ← Decode.withDefault e "members" (Decode.list Decode.string) []
    pure ⟨⟨name, description⟩, members.map UserId.mk⟩
  | v => .error (.invalidType v "struct FilterFixture")

end FilterSeed

namespace RoleSeed

/-- How a guild role is read from JSON text. -/
def spec : Read.RecordSpec := ⟨"PlatformRole", [⟨"id", true, Read.text⟩, ⟨"name", true, Read.text⟩]⟩

/-- A guild role from what its reader gave. -/
def decode : Value → Decoded RoleSeed
  | .obj e => do
    pure ⟨⟨← Decode.required e "id" Decode.string⟩, ← Decode.required e "name" Decode.string⟩
  | v => .error (.invalidType v "struct PlatformRole")

end RoleSeed

namespace MemberSeed

/-- How a member is read from JSON text. -/
def spec : Read.RecordSpec :=
  ⟨"MemberFixture", [⟨"user_id", true, Read.text⟩, ⟨"username", false, Read.text⟩,
    ⟨"roles", false, Read.list Read.text⟩]⟩

/-- A member from what its reader gave. -/
def decode : Value → Decoded MemberSeed
  | .obj e => do
    let u ← Decode.required e "user_id" Decode.string
    let username ← Decode.withDefault e "username" Decode.string ""
    let roles ← Decode.withDefault e "roles" (Decode.list Decode.string) []
    pure ⟨⟨u⟩, username, Sorted.ofList roles⟩
  | v => .error (.invalidType v "struct MemberFixture")

end MemberSeed

namespace GuildSeed

/-- How the guild is read from JSON text. -/
def spec : Read.RecordSpec :=
  ⟨"PlatformFixture", [⟨"roles", false, Read.list (Read.record RoleSeed.spec)⟩,
    ⟨"members", false, Read.list (Read.record MemberSeed.spec)⟩]⟩

/-- The guild from what its reader gave. -/
def decode : Value → Decoded GuildSeed
  | .obj e => do
    let roles ← Decode.withDefault e "roles" (Decode.list RoleSeed.decode) []
    let members ← Decode.withDefault e "members" (Decode.list MemberSeed.decode) []
    pure ⟨roles, members⟩
  | v => .error (.invalidType v "struct PlatformFixture")

end GuildSeed

namespace Fixture

/-- How a fixture is read from JSON text. -/
def spec : Read.RecordSpec :=
  ⟨"Fixture", [⟨"namespace", true, Read.text⟩,
    ⟨"config", false, Read.option (Read.record SyncConfig.spec)⟩,
    ⟨"filters", false, Read.list FilterSeed.read⟩, ⟨"roles", false, Read.list (Read.record Role.spec)⟩,
    ⟨"platform", false, Read.record GuildSeed.spec⟩]⟩

/-- A fixture from what its reader gave. -/
def decode : Value → Decoded Fixture
  | .obj e => do
    let ns ← Decode.required e "namespace" Decode.string
    let config ← Decode.withDefault e "config" (Decode.option SyncConfig.decode) none
    let filters ← Decode.withDefault e "filters" (Decode.list FilterSeed.decode) []
    let roles ← Decode.withDefault e "roles" (Decode.list Role.decode) []
    let guild ← Decode.withDefault e "platform" GuildSeed.decode {}
    pure ⟨ns, config, filters, roles, guild⟩
  | v => .error (.invalidType v "struct Fixture")

/-- Reads a fixture from JSON text. -/
def ofText (s : String) : Except ReadError Fixture := readText (Read.record spec) decode s

/-- A step of loading a fixture that failed: what was being done and why it failed. -/
structure SeedError where
  step : String
  cause : String
  deriving DecidableEq, Repr

/-- Runs a step of loading, naming it if it fails. -/
def stepping {α ε : Type} (step : String) (message : ε → String) (r : Except ε α) :
    Except SeedError α :=
  r.mapError fun e => ⟨step, message e⟩

/-- Loads the filters and roles into a store. -/
def seedStore (f : Fixture) (s : Store) : Except SeedError Store := do
  let s ← f.filters.foldlM (fun s fs => do
    let name := fs.filter.name
    let s ← stepping ("adding filter " ++ name) StoreError.message
      (s.addFilter f.ns fs.filter).accepted
    stepping ("adding members to filter " ++ name) StoreError.message
      (s.addMembers f.ns name fs.members)) s
  f.roles.foldlM (fun s r =>
    stepping ("adding role " ++ r.shortName) StoreError.message (s.addRole f.ns r).accepted) s

/-- Loads the guild's roles and members into a guild. -/
def seedGuild (f : Fixture) (g : Guild) : Except SeedError Guild := do
  let g := f.guild.roles.foldl (fun g r => g.createRoleWithId r.name r.id) g
  f.guild.members.foldlM (fun g m =>
    m.roles.foldlM (fun g name =>
      stepping ("assigning " ++ name ++ " to " ++ m.userId.text) GuildError.message
        (g.assign m.userId name)) (g.addMember m.userId m.username)) g

/-- Loads a fixture into an empty store and a new guild. -/
def seed (f : Fixture) : Except SeedError (Store × Guild) := do
  let s ← f.seedStore {}
  let g ← f.seedGuild Guild.empty
  pure (s, g)

end Fixture

end GuildRoles

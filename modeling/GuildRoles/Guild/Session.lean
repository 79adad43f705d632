import GuildRoles.Guild.Gateway

/-!
# Sessions with the guild

A session is how the synchroniser talks to the guild. It reads snapshots: the map from role
names to ids (of two roles with one name, the one with the larger id wins), and every member,
fetched page after page with the largest id seen so far until a page comes back shorter than
the page size. It treats a name clash on creation as an outcome, not an error, and it bounds
role edits by a timeout: an edit whose delay runs out after the timeout fails with the timeout,
and any other edit goes through (both are timers, compared as `Duration.endsWithin` does).

A page size is clamped to `1..1000`.
-/

namespace GuildRoles

/-- The map from role names to ids, ordered by name. -/
abbrev RoleMap := List (String × RoleId)

namespace RoleMap

/-- The names of a map, leaving out those in `ignored`. -/
def namesExcluding (m : RoleMap) (ignored : List String) : List String :=
  (m.map Prod.fst).filter fun n => !Sorted.contains n ignored

end RoleMap

/-- What came of asking for a role to be created. -/
inductive CreateOutcome where
  | created
  | alreadyExists
  deriving DecidableEq, Repr

/-- The settings of a session. -/
structure Session where
  pageSize : Nat := 1000
  editTimeout : Duration := Duration.ofSeconds 300
  memberTimeout : Duration := Duration.ofSeconds 20
  deriving DecidableEq, Repr

namespace Session

/-- Sets the page size, clamped to `1..1000`. -/
def withPageSize (s : Session) (n : Nat) : Session :=
  { s with pageSize := max 1 (min n Guild.maxPageSize) }

/-- The map from the names of the listed roles to their ids. -/
def roles (g : Guild) : Except GuildError RoleMap :=
  g.listRoles.map fun rs => Sorted.mapOfList (rs.map fun e => (e.2, e.1))

/-- Fetches pages after `after` into `acc` while pages are full; `fuel` bounds the requests. -/
def fetchPages (s : Session) : Nat → Option UserId → List (UserId × Member) → Guild →
    Except GuildError (List Member) × Guild
  | 0, _, _, g => (.error (.request "member pagination did not advance"), g)
  | fuel + 1, after, acc, g =>
    match g.listMembersPage after s.pageSize with
    | (.error e, g') => (.error e, g')
    | (.ok page, g') =>
      let acc' := page.foldl (fun acc m => Sorted.put m.userId m acc) acc
      if page.length < s.pageSize then (.ok (acc'.map Prod.snd), g')
      else
        match UserId.maximum? (page.map Member.userId) with
        | some last =>
          if after.all fun a => UserId.cmp last a == .gt then s.fetchPages fuel (some last) acc' g'
          else (.error (.request "member pagination did not advance"), g')
        | none => (.error (.request "member pagination did not advance"), g')

/-- Every member of the guild, in the order of ids, and the guild that counted the page
requests. -/
def members (s : Session) (g : Guild) : Except GuildError (List Member) × Guild :=
  s.fetchPages (g.members.length + 1) none [] g

/-- One member, who has to be in the guild. -/
def member (g : Guild) (u : UserId) : Except GuildError Member :=
  match g.member u with
  | .ok (some m) => .ok m
  | .ok none => .error (.memberNotFound u)
  | .error e => .error e

/-- The members among `users` that are in the guild, in the order given. -/
def lookupMembers (g : Guild) : List UserId → Except GuildError (List Member)
  | [] => .ok []
  | u :: rest =>
    match member g u with
    | .ok m => (lookupMembers g rest).map (m :: ·)
    | .error (.memberNotFound _) => lookupMembers g rest
    | .error e => .error e

/-- Asks for a role to be created; a name clash is an outcome. -/
def createRole (g : Guild) (name : String) : Except GuildError (CreateOutcome × Guild) :=
  match g.createRole name with
  | .ok g' => .ok (.created, g')
  | .error (.roleExists _) => .ok (.alreadyExists, g)
  | .error e => .error e

/-- Edits a role within the edit timeout. -/
def editRole (s : Session) (g : Guild) (a : RoleAttributes) : Except GuildError Guild :=
  match g.editDelay with
  | some d => if d.endsWithin s.editTimeout then g.editRole a else .error (.timeout s.editTimeout)
  | none => g.editRole a

end Session

end GuildRoles

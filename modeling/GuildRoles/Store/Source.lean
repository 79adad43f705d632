import GuildRoles.Store.Basic

/-!
# Reading and editing a policy

What the synchroniser and the group commands ask of a policy: its roles, the members of a
filter and whether a filter exists, and edits of filter members. Any of these may fail. The
store answers them without failing; a `FaultyStore` stands in front of a store for dry runs and
tests, failing the calls it was told to fail and listing, after the store's roles, extra roles
that no check has seen.
-/

namespace GuildRoles

/-- The reads of a policy. -/
class PolicyView (σ : Type) where
  listRoles : σ → Namespace → Except StoreError (List Role)
  filterMembers : σ → Namespace → String → Except StoreError MemberSet
  filterExists : σ → Namespace → String → Except StoreError Bool

/-- The edits of filter members. -/
class MemberEdits (σ : Type) where
  addMembers : σ → Namespace → String → List UserId → Except StoreError σ
  removeMembers : σ → Namespace → String → List UserId → Except StoreError σ
  clearMembers : σ → Namespace → String → Except StoreError (Nat × σ)

namespace PolicyView

/-- The first listed role of a short name. -/
def role {σ : Type} [PolicyView σ] (s : σ) (ns : Namespace) (short : String) :
    Except StoreError Role := do
  let roles ← listRoles s ns
  match roles.find? fun r => r.shortName == short with
  | some r => pure r
  | none => throw (.roleNotFound short)

end PolicyView

instance : PolicyView Store where
  listRoles s ns := .ok (s.listRoles ns)
  filterMembers s ns f := .ok (s.filterMembers ns f)
  filterExists s ns f := .ok (s.filterExists ns f)

instance : MemberEdits Store where
  addMembers := Store.addMembers
  removeMembers := Store.removeMembers
  clearMembers := Store.clearMembers

/-- The calls a `FaultyStore` can be told to fail. -/
inductive StoreCall where
  | listRoles
  | filterMembers
  | filterExists
  | addMembers
  | removeMembers
  | clearMembers
  deriving DecidableEq, Repr

/-- A store with extra unchecked roles and calls that fail with a backend error. -/
structure FaultyStore where
  store : Store := {}
  extraRoles : List (Namespace × Role) := []
  faults : List (StoreCall × String) := []
  deriving Repr

namespace FaultyStore

/-- Fails a call with a backend error of a message from now on. -/
def fail (s : FaultyStore) (c : StoreCall) (message : String) : FaultyStore :=
  { s with faults := (c, message) :: s.faults.filter fun e => e.1 != c }

/-- Fails no call any more. -/
def heal (s : FaultyStore) : FaultyStore := { s with faults := [] }

/-- Lists a role after the store's roles of a namespace, unchecked. -/
def addExtraRole (s : FaultyStore) (ns : Namespace) (r : Role) : FaultyStore :=
  { s with extraRoles := s.extraRoles ++ [(ns, r)] }

/-- Runs a call unless it was told to fail. -/
def guard {α : Type} (s : FaultyStore) (c : StoreCall) (r : Except StoreError α) :
    Except StoreError α :=
  match s.faults.lookup c with
  | some m => .error (.backend m)
  | none => r

/-- The store's roles of a namespace and then its extra roles, in the order added. -/
def listRoles (s : FaultyStore) (ns : Namespace) : Except StoreError (List Role) :=
  s.guard .listRoles (.ok (s.store.listRoles ns ++
    (s.extraRoles.filter fun e => e.1 == ns).map Prod.snd))

/-- Replaces the store behind the faults. -/
def withStore (s : FaultyStore) (r : Except StoreError Store) : Except StoreError FaultyStore :=
  r.map fun st => { s with store := st }

end FaultyStore

instance : PolicyView FaultyStore where
  listRoles := FaultyStore.listRoles
  filterMembers s ns f := s.guard .filterMembers (.ok (s.store.filterMembers ns f))
  filterExists s ns f := s.guard .filterExists (.ok (s.store.filterExists ns f))

instance : MemberEdits FaultyStore where
  addMembers s ns f ids := s.guard .addMembers (s.withStore (s.store.addMembers ns f ids))
  removeMembers s ns f ids := s.guard .removeMembers (s.withStore (s.store.removeMembers ns f ids))
  clearMembers s ns f := s.guard .clearMembers
    ((s.store.clearMembers ns f).map fun r => (r.1, { s with store := r.2 }))

end GuildRoles

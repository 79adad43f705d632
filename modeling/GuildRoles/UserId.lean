import GuildRoles.Text.Integer

/-!
# User ids

A user of the chat guild is known by a text id. Guilds hand out numeric ids, so ids are ordered
numerically where they can be: an id whose text reads as a natural number below `2^64` (ASCII
digits after an optional `+`) comes before every other id, and two such ids are ordered by their
number, then by their text (`"09"` before `"9"`). All other ids follow, ordered by their text.
-/

namespace GuildRoles

/-- The id of a user of the guild. -/
structure UserId where
  text : String
  deriving DecidableEq, Repr

namespace UserId

/-- The number an id stands for, when its text is one. -/
def numeric? (u : UserId) : Option Nat := Text.readU64? u.text

/-- The order of ids: numeric ids first, by number and then text, then the others by text. -/
def cmp (a b : UserId) : Ordering :=
  match a.numeric?, b.numeric? with
  | some x, some y => (compare x y).then (compare a.text b.text)
  | some _, none => .lt
  | none, some _ => .gt
  | none, none => compare a.text b.text

instance : Ord UserId := ⟨cmp⟩

/-- Sorts ids, keeping equal ids in the order given. -/
def sort (ids : List UserId) : List UserId := ids.mergeSort fun a b => cmp a b != .gt

/-- The largest of a list of ids. -/
def maximum? : List UserId → Option UserId
  | [] => none
  | u :: rest => some (rest.foldl (fun m v => if cmp m v == .gt then m else v) u)

end UserId

end GuildRoles

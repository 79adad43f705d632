import GuildRoles.Store.Basic
import GuildRoles.Json.Value

/-!
# Filters as JSON values

A filter is written as an object with the keys `name` and `description`.
-/

namespace GuildRoles

/-- A filter as an object. -/
def Filter.toValue (f : Filter) : Json.Value :=
  .obj [("name", .str f.name), ("description", .str f.description)]

end GuildRoles
